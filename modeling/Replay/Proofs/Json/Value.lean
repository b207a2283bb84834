import Replay.Proofs.Json.Items

/-!
# Values and documents

The reader of values against their grammar, level by level: what reads the parts
of a value correctly reads the value correctly. A document is accepted exactly if
the grammar derives it, and then the value returned is the one derived, so the
grammar is unambiguous.
-/

namespace Replay.Json

open Grammar

/-- A reader takes what has a form, with a gap before it, and nothing else. -/
structure ReadsValues {α : Type} (read : Reader α) (form : α → Bytes → Prop) : Prop where
  sound {input left : Bytes} {value : α} (takes : Takes (read input) value left) :
    ∃ gap octets, Gap gap ∧ form value octets ∧ input = gap ++ octets ++ left
  complete {gap octets left : Bytes} {value : α} (blank : Gap gap) (written : form value octets)
    (delimited : Delimited left) : Takes (read (gap ++ octets ++ left)) value left
  begins {value : α} {octets : Bytes} (written : form value octets) : Begins octets

namespace ReadsValues

variable {α : Type} {read : Reader α} {form : α → Bytes → Prop}

theorem items (reads : ReadsValues read form) :
    ReadsItems (fun _ => read) form fun _ _ => True where
  sound takes := ⟨trivial, reads.sound takes⟩
  complete _ written delimited := reads.complete gap_nil written delimited
  begins := reads.begins

end ReadsValues

/-! ## Members -/

/-- The readers that a member consists of. -/
theorem takes_member_parts {α : Type} {ending : Ending} {read : Reader α} {input rest : Bytes}
    {named : String × α} :
    Takes (member ending read input) named rest ↔
      ∃ behindQuote behindKey behindColon, input = 0x22 :: behindQuote ∧
        Takes (text ending behindQuote) named.1 behindKey ∧
        Takes (colon ending behindKey) () behindColon ∧
        Takes (read behindColon) named.2 rest := by
  constructor
  · intro takes
    unfold member at takes
    split at takes
    · exact absurd takes not_takes_error
    · next quote behindQuote =>
      split at takes
      · next isQuote =>
        split at takes
        · exact absurd takes not_takes_error
        · next key first =>
          split at takes
          · exact absurd takes not_takes_error
          · next colon second =>
            split at takes
            · exact absurd takes not_takes_error
            · next value third =>
              obtain ⟨rfl, rfl⟩ := takes_mk.1 takes
              rw [isQuote]
              exact ⟨_, _, _, rfl, takes_of_eq first, takes_of_eq second, takes_of_eq third⟩
      · exact absurd takes not_takes_error
  · rintro ⟨_, _, _, rfl, ⟨_, first⟩, ⟨_, second⟩, ⟨_, third⟩⟩
    simp [member, first, second, third]

/-- A name between quotes with the colon behind it. -/
theorem takes_key_iff {name : String} {input behindColon : Bytes} :
    (∃ behindQuote behindKey, input = 0x22 :: behindQuote ∧
      Takes (text .finished behindQuote) name behindKey ∧
      Takes (colon .finished behindKey) () behindColon) ↔
      ∃ key before, Quoted name key ∧ Gap before ∧
        input = key ++ before ++ 0x3A :: behindColon := by
  constructor
  · rintro ⟨behindQuote, behindKey, rfl, key, colon⟩
    obtain ⟨octets, letters, rfl⟩ := takes_text_iff.1 key
    obtain ⟨before, blank, parts⟩ := exists_gap behindKey
    rw [takes_colon_iff.1 colon] at parts
    refine ⟨_, before, .quotes letters, blank, ?_⟩
    rw [parts]
    simp
  · rintro ⟨key, before, ⟨letters⟩, blank, rfl⟩
    refine ⟨_, before ++ 0x3A :: behindColon, rfl, takes_text_iff.2 ⟨_, letters, by simp⟩, ?_⟩
    apply takes_colon_iff.2
    exact skipSpace_append blank (stops_cons.2 (by decide))

theorem ReadsValues.member {α : Type} {read : Reader α} {form : α → Bytes → Prop}
    (reads : ReadsValues read form) :
    ReadsItems (fun _ => Json.member .finished read) (Member form) fun _ _ => True where
  sound := by
    intro before start left named takes
    obtain ⟨_, _, behindColon, quote, name, colon, value⟩ := takes_member_parts.1 takes
    obtain ⟨key, blank, quoted, blankBefore, rfl⟩ := takes_key_iff.1 ⟨_, _, quote, name, colon⟩
    obtain ⟨gap, written, blankAfter, form, rfl⟩ := reads.sound value
    refine ⟨trivial, [], _, gap_nil, .named quoted blankBefore blankAfter form, ?_⟩
    simp
  complete := by
    intro before named octets left _ written delimited
    obtain ⟨quoted, blankBefore, blankAfter, written⟩ := written
    obtain ⟨_, _, quote, name, colon⟩ := takes_key_iff.2 ⟨_, _, quoted, blankBefore, rfl⟩
    refine takes_member_parts.2 ⟨_, _, _, ?_, name, colon,
      reads.complete blankAfter written delimited⟩
    rw [← quote]
    simp
  begins := by
    intro named octets written
    obtain ⟨⟨letters⟩, _, _, _⟩ := written
    exact ⟨0x22, _, rfl, by decide, by decide, by decide⟩

/-! ## Levels -/

theorem begins_of_scalar {value : Scalar} {octets : Bytes}
    (written : Grammar.Scalar value octets) : Begins octets := by
  obtain ⟨first, rest, rfl, opens⟩ := written.exists_opens
  exact ⟨first, rest, rfl, isSpace_of_opensScalar opens, ne_of_opensScalar opens (by decide),
    ne_of_opensScalar opens (by decide)⟩

theorem nested_zero_iff {value : Value} {octets : Bytes} :
    Nested 0 value octets ↔ ∃ scalar, value = .scalar scalar ∧ Grammar.Scalar scalar octets := by
  cases value <;> simp [Nested]

/-- A scalar is written alike at every level. -/
theorem nested_scalar_iff {depth : Nat} {scalar : Scalar} {octets : Bytes} :
    Nested depth (.scalar scalar) octets ↔ Grammar.Scalar scalar octets := by
  cases depth with
  | zero => exact Iff.rfl
  | succ depth =>
    constructor
    · intro nested
      cases nested with
      | scalar written => exact written
    · exact .scalar

/-- A natural number is written alike at every level. -/
theorem nested_natural {depth number : Nat} {digits : Bytes} (whole : Whole digits)
    (same : digitsValue 0 digits = number) (small : number < UInt64.size) :
    Nested depth (.scalar (.number (.natural number))) digits :=
  nested_scalar_iff.2 (scalar_natural_iff.2 ⟨whole, same, small⟩)

/-- A text is written alike at every level. -/
theorem nested_text {depth : Nat} {text : String} {octets : Bytes} (quoted : Quoted text octets) :
    Nested depth (.scalar (.text text)) octets :=
  nested_scalar_iff.2 (.text quoted)

/-- An object with one member, whose name stands for itself, is written without gaps. -/
theorem document_of_member {name : String} {value : Value} {octets : Bytes}
    (plain : Plain name.toList) (nested : Nested 126 value octets) :
    Document (.object [(name, value)])
      (0x7B :: 0x22 :: (Utf8.encode name ++ 0x22 :: 0x3A :: (octets ++ [0x7D]))) := by
  have member := Member.named (.of_plain plain) gap_nil gap_nil nested
  have document : Document (.object [(name, value)]) _ :=
    .whole gap_nil (.object (.filled gap_nil member (.done gap_nil))) gap_nil
  simpa using document

namespace Value

/-- What can be taken at a level: a scalar, or the parts of a list or an object. -/
theorem takes_readWith_iff {nested : Option (Reader Value)} {input left : Bytes}
    {value : Value} :
    Takes (readWith nested input) value left ↔
      ∃ first rest, skipSpace input = first :: rest ∧
        ((∃ outcome scalar, scalar? .finished first rest = some outcome ∧
          Takes outcome scalar left ∧ value = .scalar scalar) ∨
        (∃ read, ∃ fits : rest.length ≤ input.length, ∃ elements, nested = some read ∧
          first = 0x5B ∧
          Takes (items .list .finished (fun _ => read) [] rest fits) elements left ∧
          value = .list elements) ∨
        ∃ read, ∃ fits : rest.length ≤ input.length, ∃ members, nested = some read ∧
          first = 0x7B ∧
          Takes (items .object .finished (fun _ => member .finished read) [] rest fits) members
            left ∧
          value = .object members) := by
  constructor
  · intro takes
    unfold readWith at takes
    split at takes
    · exact absurd takes not_takes_error
    · next first rest skipped =>
      refine ⟨first, rest, skipped, ?_⟩
      dsimp only at takes
      split at takes
      · next outcome scalar =>
        obtain ⟨inner, taken, rfl⟩ := takes_map_weaken.1 takes
        exact .inl ⟨outcome, inner, scalar, taken, rfl⟩
      · split at takes
        · split at takes
          · exact absurd takes not_takes_error
          · next read =>
            split at takes
            · next isList =>
              obtain ⟨elements, taken, rfl⟩ := takes_map.1 takes
              exact .inr (.inl ⟨read, _, elements, rfl, isList, taken, rfl⟩)
            · next notList =>
              obtain ⟨members, taken, rfl⟩ := takes_map.1 takes
              have isObject : first = 0x7B := by simp_all
              exact .inr (.inr ⟨read, _, members, rfl, isObject, taken, rfl⟩)
        · exact absurd takes not_takes_error
  · rintro ⟨first, rest, skipped, kinds⟩
    unfold readWith
    split
    · next ended =>
      rw [skipped] at ended
      cases ended
    · next octet behind parts =>
      rw [skipped] at parts
      cases parts
      rcases kinds with ⟨outcome, scalar, found, taken, rfl⟩ |
        ⟨read, fits, elements, rfl, rfl, taken, rfl⟩ | ⟨read, fits, members, rfl, rfl, taken, rfl⟩
      · simp only [found]
        exact takes_map_weaken.2 ⟨scalar, taken, rfl⟩
      · simp only [scalar?_eq_none (.inl rfl)]
        exact takes_map.2 ⟨elements, taken, rfl⟩
      · simp only [scalar?_eq_none (.inr rfl)]
        exact takes_map.2 ⟨members, taken, rfl⟩

/-- A scalar is taken at every level. -/
theorem takes_scalar {nested : Option (Reader Value)} {gap octets left : Bytes}
    {scalar : Json.Scalar} (blank : Gap gap) (written : Grammar.Scalar scalar octets)
    (delimited : Delimited left) :
    Takes (readWith nested (gap ++ octets ++ left)) (.scalar scalar) left := by
  obtain ⟨first, rest, outcome, skipped, found, taken⟩ :=
    exists_takes_of_scalar blank written delimited
  exact takes_readWith_iff.2 ⟨first, rest, skipped, .inl ⟨outcome, scalar, found, taken, rfl⟩⟩

theorem begins_of_value {part : Value → Bytes → Prop} {value : Value} {octets : Bytes}
    (written : Grammar.Value part value octets) : Begins octets := by
  cases written with
  | scalar written => exact begins_of_scalar written
  | list _ => exact ⟨0x5B, _, rfl, by decide, by decide, by decide⟩
  | object _ => exact ⟨0x7B, _, rfl, by decide, by decide, by decide⟩

theorem readsValues_zero : ReadsValues (readWith none) (Nested 0) where
  sound := by
    intro input left value takes
    obtain ⟨first, rest, skipped, kinds⟩ := takes_readWith_iff.1 takes
    rcases kinds with ⟨outcome, scalar, found, taken, rfl⟩ | ⟨_, _, _, absent, _⟩ |
      ⟨_, _, _, absent, _⟩
    · obtain ⟨gap, octets, blank, written, parts⟩ := exists_scalar_of_takes skipped found taken
      exact ⟨gap, octets, blank, nested_zero_iff.2 ⟨scalar, rfl, written⟩, parts⟩
    · cases absent
    · cases absent
  complete := by
    intro gap octets left value blank written delimited
    obtain ⟨scalar, rfl, written⟩ := nested_zero_iff.1 written
    exact takes_scalar blank written delimited
  begins := by
    intro value octets written
    obtain ⟨scalar, _, written⟩ := nested_zero_iff.1 written
    exact begins_of_scalar written

/-- A reader of the parts of values makes a reader of values. -/
theorem readsValues_succ {read : Reader Value} {part : Value → Bytes → Prop}
    (reads : ReadsValues read part) :
    ReadsValues (readWith (some read)) (Grammar.Value part) where
  sound := by
    intro input left value takes
    obtain ⟨first, rest, skipped, kinds⟩ := takes_readWith_iff.1 takes
    obtain ⟨gap, blank, parts⟩ := exists_gap input
    rw [skipped] at parts
    rcases kinds with ⟨outcome, scalar, found, taken, rfl⟩ |
      ⟨_, _, elements, present, rfl, taken, rfl⟩ | ⟨_, _, members, present, rfl, taken, rfl⟩
    · obtain ⟨gap, octets, blank, written, parts⟩ := exists_scalar_of_takes skipped found taken
      exact ⟨gap, octets, blank, .scalar written, parts⟩
    · cases present
      obtain ⟨_, octets, items, rfl⟩ := (takes_items_iff reads.items Bracket.closes_list).1 taken
      refine ⟨gap, _, blank, .list items, ?_⟩
      rw [parts]
      simp [Bracket.list]
    · cases present
      obtain ⟨_, octets, items, rfl⟩ := (takes_items_iff reads.member Bracket.closes_object).1 taken
      refine ⟨gap, _, blank, .object items, ?_⟩
      rw [parts]
      simp [Bracket.object]
  complete := by
    intro gap octets left value blank written delimited
    cases written with
    | scalar written => exact takes_scalar blank written delimited
    | @list elements octets items =>
      have room : (octets ++ 0x5D :: left).length ≤
          (gap ++ (0x5B :: octets ++ [0x5D]) ++ left).length := by
        simp
        omega
      have taken : Takes (Json.items .list .finished (fun _ => read) [] _ room) elements left :=
        (takes_items_iff reads.items Bracket.closes_list).2
          ⟨admitted_true [] elements, octets, items, rfl⟩
      exact takes_readWith_iff.2 ⟨0x5B, _, skipSpace_bracketed blank (by decide),
        .inr (.inl ⟨read, room, elements, rfl, rfl, taken, rfl⟩)⟩
    | @object members octets items =>
      have room : (octets ++ 0x7D :: left).length ≤
          (gap ++ (0x7B :: octets ++ [0x7D]) ++ left).length := by
        simp
        omega
      have taken : Takes (Json.items .object .finished (fun _ => member .finished read) [] _ room)
          members left :=
        (takes_items_iff reads.member Bracket.closes_object).2
          ⟨admitted_true [] members, octets, items, rfl⟩
      exact takes_readWith_iff.2 ⟨0x7B, _, skipSpace_bracketed blank (by decide),
        .inr (.inr ⟨read, room, members, rfl, rfl, taken, rfl⟩)⟩
  begins := begins_of_value

theorem readsValues_read (depth : Nat) : ReadsValues (read depth) (Nested depth) := by
  induction depth with
  | zero => exact readsValues_zero
  | succ depth ih => exact readsValues_succ ih

theorem scan_eq_ok_iff {document : Bytes} {value : Value} :
    scan document = .ok value ↔ Document value document := by
  have reads := readsValues_read depthLimit
  constructor
  · intro scanned
    unfold scan at scanned
    split at scanned
    · cases scanned
    · next taken read =>
      split at scanned
      · cases scanned
      · next ended =>
        cases scanned
        have takes := takes_of_eq read
        have blankAfter := atEnd_eq_ok_iff.1 ended
        generalize taken.value = value, taken.rest = after at takes blankAfter ⊢
        obtain ⟨before, octets, blankBefore, nested, rfl⟩ := reads.sound takes
        exact .whole blankBefore nested blankAfter
  · rintro ⟨blankBefore, nested, blankAfter⟩
    have delimited := blankAfter.delimited delimited_nil
    rw [List.append_nil] at delimited
    obtain ⟨_, taken⟩ := reads.complete blankBefore nested delimited
    simp [scan, taken, atEnd_eq_ok_iff.2 blankAfter]

/-- A document is accepted exactly if the grammar derives it, as the value derived. -/
theorem parse_eq_ok_iff {document : Bytes} {value : Value} :
    parse document = .ok value ↔ Document value document := by
  rw [← scan_eq_ok_iff, parse, mapError_eq_ok_iff]

end Value

/-- The grammar derives at most one value for a document. -/
theorem Grammar.Document.unique {value other : Json.Value} {document : Bytes}
    (derived : Document value document) (derivedOther : Document other document) :
    value = other := by
  have parsed := Value.parse_eq_ok_iff.2 derived
  rw [Value.parse_eq_ok_iff.2 derivedOther] at parsed
  cases parsed
  rfl

end Replay.Json
