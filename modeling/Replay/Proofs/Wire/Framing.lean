import Replay.Proofs.Text.Decimal
import Replay.Proofs.Text.Encoding
import Replay.Proofs.Text.Runs
import Replay.Proofs.Wire.FieldMap
import Replay.Wire.Opening

/-!
# What an opening declares

The header fields of a request are seen one after the other. Behind the first transfer
coding a declared length is passed over, so what is left of the declarations is what
stands in front of it. A request has a length exactly if one of these fields declares
it, also if the body is coded in chunks.
-/

namespace Replay.Wire

open Text

/-- The field of a transfer coding. -/
def IsCoding (field : Bytes × Bytes) : Prop :=
  FieldMap.name? field.1 = some "transfer-encoding"

instance : DecidablePred IsCoding := fun _ => inferInstanceAs (Decidable (_ = _))

/-- The fields in front of the first transfer coding. -/
def ahead (fields : List (Bytes × Bytes)) : List (Bytes × Bytes) :=
  fields.takeWhile fun field => ¬ IsCoding field

theorem ahead_of_uncoded {fields : List (Bytes × Bytes)}
    (uncoded : ∀ field ∈ fields, ¬ IsCoding field) : ahead fields = fields := by
  have found := @takeWhile_append_of_stops _ (fun field => ¬ IsCoding field) fields []
    (by simpa using uncoded) (stops_nil _)
  rwa [List.append_nil] at found

/-- What stands in front of a first transfer coding is found again. -/
theorem ahead_append_coding {front : List (Bytes × Bytes)} {coding : Bytes × Bytes}
    (behind : List (Bytes × Bytes)) (uncoded : ∀ field ∈ front, ¬ IsCoding field)
    (isCoding : IsCoding coding) : ahead (front ++ coding :: behind) = front :=
  takeWhile_append_of_stops (by simpa using uncoded) (stops_cons.2 (by simpa using isCoding))

/-- Fields with a transfer coding are those in front of the first one, this one, and
those behind it. -/
theorem exists_coding {fields : List (Bytes × Bytes)}
    (coded : ∃ field ∈ fields, IsCoding field) :
    ∃ front coding behind, fields = front ++ coding :: behind ∧
      (∀ field ∈ front, ¬ IsCoding field) ∧ IsCoding coding := by
  have found : (fields.find? fun field => IsCoding field).isSome := by simpa using coded
  obtain ⟨coding, first⟩ := Option.isSome_iff_exists.1 found
  obtain ⟨isCoding, front, behind, parts, uncoded⟩ := List.find?_eq_some_iff_append.1 first
  exact ⟨front, coding, behind, parts, by simpa using uncoded, by simpa using isCoding⟩

/-- Fields behind a transfer coding are not in front of it. -/
theorem ahead_append_of_coded {fields : List (Bytes × Bytes)} (more : List (Bytes × Bytes))
    (coded : ∃ field ∈ fields, IsCoding field) : ahead (fields ++ more) = ahead fields := by
  obtain ⟨front, coding, behind, rfl, uncoded, isCoding⟩ := exists_coding coded
  rw [List.append_assoc, List.cons_append, ahead_append_coding _ uncoded isCoding,
    ahead_append_coding _ uncoded isCoding]

/-- The field of a length, with the length that it declares. -/
def DeclaresLength (field : Bytes × Bytes) (length : Nat) : Prop :=
  FieldMap.name? field.1 = some Fields.contentLength ∧ Survey.length? field.2 = some length

theorem not_coding_of_named {field : Bytes × Bytes} {name : String}
    (named : FieldMap.name? field.1 = some name) (other : name ≠ "transfer-encoding") :
    ¬ IsCoding field := by
  intro coding
  rw [IsCoding, named] at coding
  exact other (Option.some.inj coding)

theorem DeclaresLength.not_coding {field : Bytes × Bytes} {length : Nat}
    (declares : DeclaresLength field length) : ¬ IsCoding field :=
  not_coding_of_named declares.1 (by decide)

/-- A field declares at most one length. -/
theorem DeclaresLength.unique {field : Bytes × Bytes} {length other : Nat}
    (declares : DeclaresLength field length) (declaresOther : DeclaresLength field other) :
    length = other :=
  Option.some.inj (declares.2.symm.trans declaresOther.2)

namespace Survey

variable {version : Version} {survey after : Survey} {field : Bytes × Bytes}
  {seen fields : List (Bytes × Bytes)}

/-! ## One field -/

/-- What seeing a field makes of a survey. -/
inductive Sees (survey : Survey) (field : Bytes × Bytes) : Survey → Prop where
  | coding {fields : FieldMap} (coding : IsCoding field)
      (kept : survey.fields.append? "transfer-encoding" field.2 = some fields) :
      Sees survey field { survey with fields, coded := some (endsChunked field.2) }
  | passed (named : FieldMap.name? field.1 = some Fields.contentLength)
      (coded : survey.coded.isSome) : Sees survey field survey
  | repeated {length : Nat} (uncoded : survey.coded = none)
      (declares : DeclaresLength field length) (declared : survey.declared = some length) :
      Sees survey field survey
  | length {length : Nat} {fields : FieldMap} (uncoded : survey.coded = none)
      (declares : DeclaresLength field length) (undeclared : survey.declared = none)
      (kept : survey.fields.append? Fields.contentLength field.2 = some fields) :
      Sees survey field { survey with fields, declared := some length }
  | other {name : String} {fields : FieldMap} (keepsOpen : Bool)
      (named : FieldMap.name? field.1 = some name) (noCoding : name ≠ "transfer-encoding")
      (noLength : name ≠ Fields.contentLength)
      (kept : survey.fields.append? name field.2 = some fields) :
      Sees survey field { survey with fields, keepsOpen }

theorem keep_eq_ok {name : String} {value : Bytes} (kept : survey.keep name value = .ok after) :
    ∃ fields, survey.fields.append? name value = some fields ∧
      after = { survey with fields } := by
  unfold keep at kept
  split at kept
  · cases kept
  · next fields appended =>
    cases kept
    exact ⟨fields, appended, rfl⟩

theorem sees_of_seeLength {name : String} (named : FieldMap.name? field.1 = some name)
    (isLength : name = Fields.contentLength)
    (seen : survey.seeLength name field.2 = .ok after) : Sees survey field after := by
  subst isLength
  unfold seeLength at seen
  split at seen
  · next coded =>
    cases seen
    exact .passed named coded
  · next uncoded =>
    have uncoded : survey.coded = none := by simpa using uncoded
    split at seen
    · cases seen
    · next length declared read found =>
      split at seen
      · next same =>
        cases seen
        subst same
        exact .repeated uncoded ⟨named, read⟩ found
      · cases seen
    · next length read undeclared =>
      split at seen
      · obtain ⟨fields, appended, rfl⟩ := keep_eq_ok seen
        exact .length uncoded ⟨named, read⟩ undeclared appended
      · cases seen

theorem sees_of_see (seen : survey.see version field = .ok after) : Sees survey field after := by
  unfold see at seen
  split at seen
  · cases seen
  · next name named =>
    split at seen
    · next isCoding =>
      unfold seeCoding at seen
      split at seen
      · cases seen
      · obtain ⟨fields, appended, rfl⟩ := keep_eq_ok seen
        subst isCoding
        exact .coding named appended
    · next noCoding =>
      split at seen
      · next isLength => exact sees_of_seeLength named isLength seen
      · next noLength =>
        split at seen
        · obtain ⟨fields, appended, rfl⟩ := keep_eq_ok seen
          exact .other _ named noCoding noLength appended
        · obtain ⟨fields, appended, rfl⟩ := keep_eq_ok seen
          exact .other survey.keepsOpen named noCoding noLength appended

/-! ## All fields -/

/-- The values that are kept of the declared lengths: one, whatever was repeated. -/
inductive Kept : Option Nat → List Bytes → Prop where
  | none : Kept none []
  | one {length : Nat} {value : Bytes} (reads : length? value = some length) :
      Kept (some length) [value]

/-- What a survey says is true of the fields that it has seen. -/
structure Holds (survey : Survey) (seen : List (Bytes × Bytes)) : Prop where
  formed : survey.fields.Formed
  coded : survey.coded.isSome ↔ ∃ field ∈ seen, IsCoding field
  declared (length : Nat) :
    survey.declared = some length ↔ ∃ field ∈ ahead seen, DeclaresLength field length
  kept : Kept survey.declared (survey.fields.values Fields.contentLength)

theorem holds_start (version : Version) : (start version).Holds [] := by
  refine ⟨FieldMap.formed_empty, ?_, ?_, .none⟩
  · simp [start]
  · simp [start, ahead]

theorem Holds.coded_concat (holds : survey.Holds seen) (uncoded : ¬ IsCoding field) :
    survey.coded.isSome ↔ ∃ other ∈ seen ++ [field], IsCoding other := by
  simp only [holds.coded, List.mem_append, List.mem_singleton, or_and_right, exists_or,
    exists_eq_left, uncoded, or_false]

/-- One more field adds to the declarations in front of the first coding if there is no
coding yet. -/
theorem declared_concat (length : Nat) :
    (∃ other ∈ ahead (seen ++ [field]), DeclaresLength other length) ↔
      (∃ other ∈ ahead seen, DeclaresLength other length) ∨
        (¬ ∃ other ∈ seen, IsCoding other) ∧ DeclaresLength field length := by
  by_cases coded : ∃ other ∈ seen, IsCoding other
  · simp [ahead_append_of_coded _ coded, coded]
  · have uncoded : ∀ other ∈ seen, ¬ IsCoding other := fun other within coding =>
      coded ⟨other, within, coding⟩
    rw [ahead_of_uncoded uncoded]
    by_cases coding : IsCoding field
    · have undeclared : ¬ DeclaresLength field length := fun declares =>
        declares.not_coding coding
      simp [ahead_append_coding [] uncoded coding, undeclared]
    · have uncodedAll : ∀ other ∈ seen ++ [field], ¬ IsCoding other := by
        intro other within
        rcases List.mem_append.1 within with within | within
        · exact uncoded other within
        · rwa [List.mem_singleton.1 within]
      rw [ahead_of_uncoded uncodedAll]
      simp only [List.mem_append, List.mem_singleton, or_and_right, exists_or, exists_eq_left,
        coded, not_false_eq_true, true_and]

/-- A field that is kept under another name changes neither what is declared nor what is
kept of it. -/
theorem Holds.undeclared {name : String} {value : Bytes} {fields : FieldMap}
    (holds : survey.Holds seen) (noLength : name ≠ Fields.contentLength)
    (named : FieldMap.name? field.1 = some name)
    (appended : survey.fields.append? name value = some fields) :
    fields.Formed ∧ (∀ length, survey.declared = some length ↔
      ∃ other ∈ ahead (seen ++ [field]), DeclaresLength other length) ∧
    Kept survey.declared (fields.values Fields.contentLength) := by
  refine ⟨holds.formed.append? (FieldMap.isSmall_of_name? named) appended, ?_, ?_⟩
  · intro length
    have undeclared : ¬ DeclaresLength field length := by
      rintro ⟨other, _⟩
      rw [named] at other
      exact noLength (Option.some.inj other)
    rw [declared_concat, holds.declared]
    simp [undeclared]
  · rw [FieldMap.values_append? appended, if_neg fun same => noLength same.symm]
    exact holds.kept

/-- A first length is declared and kept. -/
theorem Holds.seeLength {length : Nat} {fields : FieldMap} (holds : survey.Holds seen)
    (uncoded : survey.coded = none) (declares : DeclaresLength field length)
    (undeclared : survey.declared = none)
    (appended : survey.fields.append? Fields.contentLength field.2 = some fields) :
    { survey with fields, declared := some length }.Holds (seen ++ [field]) := by
  refine ⟨holds.formed.append? (FieldMap.isSmall_of_name? declares.1) appended,
    holds.coded_concat declares.not_coding, ?_, ?_⟩
  · intro other
    rw [declared_concat, ← holds.declared, ← holds.coded, undeclared, uncoded]
    simp only [Option.some.injEq, reduceCtorEq, Option.isSome_none, Bool.false_eq_true,
      not_false_eq_true, true_and, false_or]
    exact ⟨fun same => same ▸ declares, fun again => declares.unique again⟩
  · have kept := holds.kept
    rw [undeclared] at kept
    rw [FieldMap.values_append? appended, if_pos rfl]
    generalize survey.fields.values Fields.contentLength = values at kept
    cases kept with
    | none => exact .one declares.2

theorem Holds.see (holds : survey.Holds seen) (sees : Sees survey field after) :
    after.Holds (seen ++ [field]) := by
  cases sees with
  | coding coding appended =>
    obtain ⟨formed, declared, kept⟩ := holds.undeclared (by decide) coding appended
    exact ⟨formed, iff_of_true rfl ⟨field, by simp, coding⟩, declared, kept⟩
  | passed named coded =>
    refine ⟨holds.formed, holds.coded_concat (not_coding_of_named named (by decide)), ?_,
      holds.kept⟩
    intro length
    rw [declared_concat, ← holds.coded, holds.declared]
    simp [coded]
  | repeated uncoded declares declared =>
    refine ⟨holds.formed, holds.coded_concat declares.not_coding, ?_, holds.kept⟩
    intro length
    rw [declared_concat, ← holds.declared, ← holds.coded]
    refine ⟨.inl, ?_⟩
    rintro (same | ⟨_, other⟩)
    · exact same
    · rw [← declares.unique other]
      exact declared
  | length uncoded declares undeclared appended =>
    exact holds.seeLength uncoded declares undeclared appended
  | other keepsOpen named noCoding noLength appended =>
    obtain ⟨formed, declared, kept⟩ := holds.undeclared noLength named appended
    exact ⟨formed, holds.coded_concat (not_coding_of_named named noCoding), declared, kept⟩

theorem holds_of_foldlM (holds : survey.Holds seen)
    (surveyed : fields.foldlM (see version) survey = .ok after) :
    after.Holds (seen ++ fields) := by
  induction fields generalizing survey seen with
  | nil =>
    cases surveyed
    rwa [List.append_nil]
  | cons field fields ih =>
    rw [List.foldlM_cons] at surveyed
    cases first : survey.see version field with
    | error refusal =>
      rw [first] at surveyed
      cases surveyed
    | ok next =>
      rw [first] at surveyed
      rw [List.append_cons]
      exact ih (holds.see (sees_of_see first)) surveyed

end Survey

/-- What arrives of a body with a length is no more than that length. -/
theorem Framing.flatten_arrival_sized (length : Nat) (input : Bytes) :
    ((Framing.sized length).arrival input).parts.flatten = input.take length := by
  rw [Framing.arrival]
  dsimp only
  split
  · next empty => rw [List.isEmpty_iff.1 empty, List.flatten_nil]
  · exact List.flatten_singleton

/-- A body with a length is complete when that much has arrived. -/
theorem Framing.arrival_of_whole (body rest : Bytes) :
    ∃ parts, (Framing.sized body.length).arrival (body ++ rest) = ⟨parts, .ok rest⟩ ∧
      parts.flatten = body := by
  have taken := flatten_arrival_sized body.length (body ++ rest)
  rw [List.take_left] at taken
  refine ⟨_, ?_, taken⟩
  simp [arrival]

/-- A body with a length is awaited until that much has arrived. -/
theorem Framing.arrival_of_short {length : Nat} {input : Bytes} (short : input.length < length) :
    ∃ parts, (Framing.sized length).arrival input = ⟨parts, .error .awaited⟩ ∧
      parts.flatten = input := by
  have taken := flatten_arrival_sized length input
  rw [List.take_of_length_le (Nat.le_of_lt short)] at taken
  refine ⟨_, ?_, taken⟩
  have missing : min length input.length ≠ length := by omega
  simp [arrival, missing]

/-! ## The length of a request -/

theorem toNat_character (octet : UInt8) : (Char.ofNat octet.toNat).toNat = octet.toNat :=
  Utf8.toNat_ofNat_of_valid octet.toNat (.inl (Nat.lt_trans octet.toNat_lt (by decide)))

theorem isVisibleOctet_of_isDigitOctet {octet : UInt8} (digit : isDigitOctet octet = true) :
    isVisibleOctet octet = true := by
  rw [isDigitOctet_iff] at digit
  simp only [isVisibleOctet, Bool.and_eq_true, Bool.or_eq_true, decide_eq_true_eq,
    UInt8.le_iff_toNat_le, UInt8.reduceToNat]
  omega

theorem isDigit_of_isDigitOctet {octet : UInt8} (digit : isDigitOctet octet = true) :
    (Char.ofNat octet.toNat).isDigit = true := by
  rw [isDigitOctet_iff] at digit
  simpa [Char.isDigit, UInt32.le_iff_toNat_le, toNat_character] using digit

/-- A length is declared by a text that denotes it. -/
theorem denotes_of_length? {value : Bytes} {length : Nat}
    (declared : Survey.length? value = some length) :
    visibleText? value = some (asciiText value) ∧
      Decimal.Denotes (asciiText value).toList length ∧ length < Request.lengthBound := by
  simp only [Survey.length?, Option.ite_none_right_eq_some, Option.some.injEq, Bool.and_eq_true,
    Bool.not_eq_true', List.isEmpty_eq_false_iff, List.all_eq_true, decide_eq_true_eq] at declared
  obtain ⟨⟨⟨nonempty, digits⟩, small⟩, rfl⟩ := declared
  refine ⟨?_, ?_, small⟩
  · exact if_pos (List.all_eq_true.2 fun octet within =>
      isVisibleOctet_of_isDigitOctet (digits octet within))
  · have all : ∀ digit ∈ value.map (fun octet => Char.ofNat octet.toNat),
        digit.isDigit = true := by
      intro digit within
      obtain ⟨octet, among, rfl⟩ := List.mem_map.1 within
      exact isDigit_of_isDigitOctet (digits octet among)
    have denotes := Decimal.Denotes.digits (List.map_eq_nil_iff.not.2 nonempty) all
    rw [Decimal.value, List.foldl_map] at denotes
    simp only [Decimal.digitValue, toNat_character] at denotes
    rwa [asciiText, String.toList_ofList]

namespace Survey

/-- A request with the fields of a survey has the length that the survey found, if it
found one. -/
theorem Holds.declaredLength {survey : Survey} {seen : List (Bytes × Bytes)}
    (holds : survey.Holds seen) {head : Head} (fields : head.fields = survey.fields)
    (body : Bytes) :
    (head.request body).declaredLength =
      match survey.declared with
      | none => .error .lengthMissing
      | some length => .ok length := by
  have shown := holds.formed.first?_visible Fields.contentLength
  have small : smallName Fields.contentLength = Fields.contentLength := by decide
  rw [small] at shown
  rw [Request.declaredLength, Request.field?, Head.request, fields, shown]
  have kept := holds.kept
  generalize survey.declared = declared, survey.fields.values Fields.contentLength = values
    at kept ⊢
  cases kept with
  | none => rfl
  | one reads =>
    obtain ⟨visible, denotes, small⟩ := denotes_of_length? reads
    simp [visible, Decimal.readTrimmedBelow?_eq_some_iff.2 ⟨denotes.declares, small⟩]

end Survey

namespace Opening

/-- An opening that is understood comes from a survey of all header fields. -/
theorem exists_survey {lines : List Bytes} {opening : Opening}
    (understood : ofLines lines = .ok opening) :
    ∃ (fields : List (Bytes × Bytes)) (survey : Survey), fieldsOf lines.tail = .ok fields ∧
      survey.Holds fields ∧ survey.framing = .ok opening.framing ∧
      opening.head.fields = survey.fields := by
  unfold ofLines at understood
  split at understood
  · cases understood
  · next line lines =>
    split at understood
    · cases understood
    · next requestLine _ =>
      split at understood
      · cases understood
      · next fields found =>
        unfold ofParts at understood
        split at understood
        · cases understood
        split at understood
        · cases understood
        split at understood
        · cases understood
        split at understood
        · cases understood
        · next survey surveyed =>
          split at understood
          · cases understood
          · next framing framed =>
            cases understood
            have holds := Survey.holds_of_foldlM (Survey.holds_start _) surveyed
            exact ⟨fields, survey, found, holds, framed, rfl⟩

end Opening

end Replay.Wire
