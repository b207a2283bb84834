import Replay.Http.Request
import Replay.Proofs.Text.AsciiCase
import Replay.Proofs.Text.Decimal

/-!
# The length that a request declares

The first header field with a name, said without a search, and from it the length
that a request declares for its body. There are three cases: no field, a field that
does not denote a number of 64 bits, and a declared length. In which of them a request
is, depends on nothing but the first value under the name.
-/

namespace Replay

open Text

/-- A value stands in the first field whose name differs at most in the case of
ASCII letters. -/
def FirstNamed (name value : String) (fields : Fields) : Prop :=
  ∃ before key after, fields = before ++ (key, value) :: after ∧ sameName key name = true ∧
    ∀ field ∈ before, sameName field.1 name = false

namespace Fields

theorem first?_eq_some_iff {fields : Fields} {name value : String} :
    fields.first? name = some value ↔ FirstNamed name value fields := by
  simp only [first?, Option.map_eq_some_iff, List.find?_eq_some_iff_append, Bool.not_eq_true']
  constructor
  · rintro ⟨⟨key, _⟩, ⟨named, before, after, parts, others⟩, rfl⟩
    exact ⟨before, key, after, parts, named, others⟩
  · rintro ⟨before, key, after, parts, named, others⟩
    exact ⟨(key, value), ⟨named, before, after, parts, others⟩, rfl⟩

theorem first?_eq_none_iff {fields : Fields} {name : String} :
    fields.first? name = none ↔ ∀ field ∈ fields, sameName field.1 name = false := by
  simp [first?]

end Fields

namespace Request

/-- A request declares a length for its body. -/
def Declares (request : Request) (length : Nat) : Prop :=
  ∃ text, FirstNamed Fields.contentLength text request.fields ∧ Decimal.Declares text length ∧
    length < lengthBound

theorem declaredLength_eq_ok_iff {request : Request} {length : Nat} :
    request.declaredLength = .ok length ↔ request.Declares length := by
  unfold declaredLength field? Declares
  constructor
  · intro declared
    split at declared
    · cases declared
    · next text found =>
      split at declared
      · cases declared
      · next number read =>
        cases declared
        exact ⟨text, Fields.first?_eq_some_iff.1 found,
          Decimal.readTrimmedBelow?_eq_some_iff.1 read⟩
  · rintro ⟨text, first, declares⟩
    rw [Fields.first?_eq_some_iff.2 first]
    dsimp only
    rw [Decimal.readTrimmedBelow?_eq_some_iff.2 declares]

theorem declaredLength_of_absent {request : Request}
    (absent : ∀ field ∈ request.fields, sameName field.1 Fields.contentLength = false) :
    request.declaredLength = .error .lengthMissing := by
  rw [declaredLength, field?, Fields.first?_eq_none_iff.2 absent]

theorem declaredLength_of_invalid {request : Request} {text : String}
    (present : FirstNamed Fields.contentLength text request.fields)
    (invalid : ¬ ∃ length, Decimal.Declares text length ∧ length < lengthBound) :
    request.declaredLength = .error (.lengthInvalid text) := by
  have unread : Decimal.readTrimmedBelow? lengthBound text = none := by
    apply Decimal.readTrimmedBelow?_eq_none_iff.2
    intro length declares
    exact Nat.not_lt.1 fun fits => invalid ⟨length, declares, fits⟩
  rw [declaredLength, field?, Fields.first?_eq_some_iff.2 present]
  simp [unread]

/-- A request declares a length, or has no field for it, or one that denotes none. -/
theorem declares_cases (request : Request) :
    (∃ length, request.Declares length) ∨
    (∀ field ∈ request.fields, sameName field.1 Fields.contentLength = false) ∨
    ∃ text, FirstNamed Fields.contentLength text request.fields ∧
      ¬ ∃ length, Decimal.Declares text length ∧ length < lengthBound := by
  cases found : request.fields.first? Fields.contentLength with
  | none => exact .inr (.inl (Fields.first?_eq_none_iff.1 found))
  | some text =>
    have first := Fields.first?_eq_some_iff.1 found
    by_cases valid : ∃ length, Decimal.Declares text length ∧ length < lengthBound
    · obtain ⟨length, declares⟩ := valid
      exact .inl ⟨length, text, first, declares⟩
    · exact .inr (.inr ⟨text, first, valid⟩)

/-- A posted body declares its own length, if that has 64 bits. -/
theorem declares_post {body : Bytes} (small : body.length < lengthBound) :
    (post body).Declares body.length := by
  refine ⟨Decimal.write body.length, ?_, Decimal.declares_write body.length, small⟩
  exact ⟨[], Fields.contentLength, [], rfl, by decide, by simp⟩

end Request

/-! ## The first value -/

/-- What stands first under a name, in whatever case it is written, if anything does. -/
inductive FirstValue (name : String) : Fields → Option String → Prop where
  | absent {fields : Fields} (others : ∀ field ∈ fields, ¬ AlikeNames field.1 name) :
      FirstValue name fields none
  | present {before after : Fields} {key value : String}
      (others : ∀ field ∈ before, ¬ AlikeNames field.1 name) (named : AlikeNames key name) :
      FirstValue name (before ++ (key, value) :: after) (some value)

theorem Fields.first?_eq_iff {fields : Fields} {name : String} {found : Option String} :
    fields.first? name = found ↔ FirstValue name fields found := by
  constructor
  · rintro rfl
    cases found : fields.first? name with
    | none =>
      rw [first?_eq_none_iff] at found
      exact .absent (by simpa [← sameName_iff] using found)
    | some value =>
      obtain ⟨before, key, after, rfl, named, others⟩ := first?_eq_some_iff.1 found
      exact .present (by simpa [← sameName_iff] using others) (sameName_iff.1 named)
  · intro first
    cases first with
    | absent others => exact first?_eq_none_iff.2 (by simpa [← sameName_iff] using others)
    | present others named =>
      refine first?_eq_some_iff.2 ⟨_, _, _, rfl, sameName_iff.2 named, ?_⟩
      simpa [← sameName_iff] using others

/-- What is declared by a value, if there is one: the number that it denotes between white
space, if that has 64 bits. -/
inductive LengthOf : Option String → Except Failure Nat → Prop where
  | missing : LengthOf none (.error .lengthMissing)
  | length {text : String} {length : Nat} (declares : Decimal.Declares text length)
      (fits : length < 2 ^ 64) : LengthOf (some text) (.ok length)
  | invalid {text : String} (undeclared : ∀ length, Decimal.Declares text length → 2 ^ 64 ≤ length) :
      LengthOf (some text) (.error (.lengthInvalid text))

namespace LengthOf

/-- A value declares one thing only. -/
theorem unique {found : Option String} {outcome other : Except Failure Nat}
    (lengthOf : LengthOf found outcome) (lengthOfOther : LengthOf found other) :
    outcome = other := by
  cases lengthOf with
  | missing =>
    cases lengthOfOther
    rfl
  | length declares fits =>
    cases lengthOfOther with
    | length declaresOther _ => rw [declares.unique declaresOther]
    | invalid undeclared => exact absurd fits (Nat.not_lt.2 (undeclared _ declares))
  | invalid undeclared =>
    cases lengthOfOther with
    | length declares fits => exact absurd fits (Nat.not_lt.2 (undeclared _ declares))
    | invalid _ => rfl

end LengthOf

namespace Request

variable {request : Request} {found : Option String} {outcome : Except Failure Nat}

/-- A request declares what the first value declares. -/
theorem lengthOf_declaredLength (request : Request) :
    LengthOf (request.field? Fields.contentLength) request.declaredLength := by
  unfold declaredLength
  split
  · next absent =>
    rw [absent]
    exact .missing
  · next text present =>
    rw [present]
    split
    · next unread => exact .invalid (Decimal.readTrimmedBelow?_eq_none_iff.1 unread)
    · next length read =>
      obtain ⟨declares, fits⟩ := Decimal.readTrimmedBelow?_eq_some_iff.1 read
      exact .length declares fits

theorem declaredLength_eq_iff (first : request.field? Fields.contentLength = found) :
    request.declaredLength = outcome ↔ LengthOf found outcome := by
  subst first
  exact ⟨fun declared => declared ▸ request.lengthOf_declaredLength,
    request.lengthOf_declaredLength.unique⟩

/-- The length that a request declares, exactly. The first field with the name decides,
whatever its case and whatever stands behind it: with a number that its value denotes in
base ten, however long it is written, or with the value as it stands. -/
theorem declaredLength_exact (request : Request) :
    (∀ outcome, request.declaredLength = outcome ↔
      ∃ found, FirstValue Fields.contentLength request.fields found ∧ LengthOf found outcome) ∧
    ∀ digits, Decimal.value digits = Nat.ofDigits 10 (digits.map Decimal.digitValue).reverse := by
  refine ⟨fun outcome => ?_, Decimal.value_eq_ofDigits⟩
  rw [declaredLength_eq_iff rfl]
  constructor
  · intro lengthOf
    exact ⟨_, Fields.first?_eq_iff.1 rfl, lengthOf⟩
  · rintro ⟨found, first, lengthOf⟩
    rwa [field?, Fields.first?_eq_iff.2 first]

end Request

end Replay
