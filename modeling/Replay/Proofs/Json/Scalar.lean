import Replay.Proofs.Json.Numeral
import Replay.Proofs.Json.Text

/-!
# Scalars

The reader of scalars against their grammar. The first octet of a scalar decides
its kind, and it is neither space nor punctuation, so what stands behind a gap or
a comma is not mistaken for one.
-/

namespace Replay.Json

open Grammar

theorem takes_literal_iff {letters rest left : Bytes} {value other : Scalar} :
    Takes (literal .finished letters value rest) other left ↔
      other = value ∧ rest = letters ++ left := by
  unfold literal
  split
  · next fault refused =>
    constructor
    · intro takes
      exact absurd takes not_takes_error
    · rintro ⟨_, parts⟩
      rw [word_eq_ok_iff.2 parts] at refused
      cases refused
  · next behind taken =>
    rw [takes_mk, word_eq_ok_iff.1 taken, List.append_cancel_left_eq, eq_comm]

/-! ## First octets -/

/-- The octets with which scalars begin. -/
def opensScalar (octet : UInt8) : Bool :=
  octet == 0x6E || octet == 0x74 || octet == 0x66 || octet == 0x2D || isDigit octet ||
    octet == 0x22

theorem Grammar.Whole.exists_digit {digits : Bytes} (whole : Whole digits) :
    ∃ first rest, digits = first :: rest ∧ isDigit first = true := by
  cases whole with
  | zero => exact ⟨_, _, rfl, by decide⟩
  | digits shown _ => exact ⟨_, _, rfl, (digits_iff.1 shown).1⟩

theorem Grammar.Magnitude.exists_digit {written : Json.Numeral} {octets : Bytes}
    (magnitude : Magnitude written octets) :
    ∃ first rest, octets = first :: rest ∧ isDigit first = true := by
  obtain ⟨whole, _, _⟩ := magnitude
  obtain ⟨first, rest, same, digit⟩ := whole.exists_digit
  rw [same]
  exact ⟨first, _, rfl, digit⟩

theorem Grammar.Scalar.exists_opens {value : Json.Scalar} {octets : Bytes}
    (written : Grammar.Scalar value octets) :
    ∃ first rest, octets = first :: rest ∧ opensScalar first = true := by
  cases written with
  | null => exact ⟨_, _, rfl, by decide⟩
  | yes => exact ⟨_, _, rfl, by decide⟩
  | no => exact ⟨_, _, rfl, by decide⟩
  | number written _ =>
    cases written with
    | positive _ magnitude =>
      obtain ⟨first, rest, rfl, digit⟩ := magnitude.exists_digit
      exact ⟨first, rest, rfl, by simp [opensScalar, digit]⟩
    | negative _ _ => exact ⟨_, _, rfl, by decide⟩
  | text quoted =>
    obtain ⟨_⟩ := quoted
    exact ⟨_, _, rfl, by decide⟩

/-- No octet that begins a scalar is one of those that begin no scalar. -/
theorem ne_of_opensScalar {octet other : UInt8} (opens : opensScalar octet = true)
    (closed : opensScalar other = false) : octet ≠ other := by
  rintro rfl
  rw [opens] at closed
  cases closed

theorem isSpace_of_opensScalar {octet : UInt8} (opens : opensScalar octet = true) :
    isSpace octet = false := by
  cases space : isSpace octet with
  | false => rfl
  | true =>
    rcases isSpace_iff.1 space with same | same | same | same
    all_goals exact absurd same (ne_of_opensScalar opens (by decide))

theorem scalar?_eq_none {ending : Ending} {first : UInt8} {rest : Bytes}
    (bracket : first = 0x5B ∨ first = 0x7B) : scalar? ending first rest = none := by
  rcases bracket with rfl | rfl <;> rfl

theorem scalar?_digit {ending : Ending} {first : UInt8} {rest : Bytes}
    (digit : isDigit first = true) :
    scalar? ending first rest =
      some ((number ending false (first :: rest)).map fun taken => taken.map Scalar.number) := by
  have others : ∀ other, isDigit other = false → first ≠ other := by
    rintro other noDigit rfl
    rw [digit] at noDigit
    cases noDigit
  unfold scalar?
  rw [if_neg (others 0x6E (by decide)), if_neg (others 0x74 (by decide)),
    if_neg (others 0x66 (by decide)), if_neg (others 0x2D (by decide)), if_pos digit]

/-! ## Whole scalars -/

/-- What is taken as a scalar is written as one. -/
theorem scalar_of_takes {first : UInt8} {rest left : Bytes} {value : Scalar}
    {outcome : Except Fault (Taken (rest.length + 1) Scalar)}
    (read : scalar? .finished first rest = some outcome) (takes : Takes outcome value left) :
    ∃ octets, Grammar.Scalar value octets ∧ first :: rest = octets ++ left := by
  unfold scalar? at read
  -- One case for each kind of first octet, in the order in which the reader asks for them.
  split at read
  · next isN =>
    injection read with read
    rw [← read, takes_literal_iff] at takes
    obtain ⟨rfl, rfl⟩ := takes
    exact ⟨_, .null, by rw [isN]; rfl⟩
  split at read
  · next isT =>
    injection read with read
    rw [← read, takes_literal_iff] at takes
    obtain ⟨rfl, rfl⟩ := takes
    exact ⟨_, .yes, by rw [isT]; rfl⟩
  split at read
  · next isF =>
    injection read with read
    rw [← read, takes_literal_iff] at takes
    obtain ⟨rfl, rfl⟩ := takes
    exact ⟨_, .no, by rw [isF]; rfl⟩
  split at read
  · next isMinus =>
    injection read with read
    rw [← read, takes_map_weaken] at takes
    obtain ⟨number, taken, rfl⟩ := takes
    obtain ⟨written, taken, denotes⟩ := takes_number_iff.1 taken
    obtain ⟨signed, octets, magnitude, rfl⟩ := magnitude_of_takes taken
    exact ⟨_, .number (.negative signed magnitude) denotes, by rw [isMinus]; rfl⟩
  split at read
  · next isDigit =>
    injection read with read
    rw [← read] at takes
    obtain ⟨number, taken, rfl⟩ := takes_map.1 takes
    obtain ⟨written, taken, denotes⟩ := takes_number_iff.1 taken
    obtain ⟨unsigned, octets, magnitude, parts⟩ := magnitude_of_takes taken
    exact ⟨_, .number (.positive unsigned magnitude) denotes, parts⟩
  split at read
  · next isQuote =>
    injection read with read
    rw [← read, takes_map_weaken] at takes
    obtain ⟨text, taken, rfl⟩ := takes
    obtain ⟨octets, letters, rfl⟩ := takes_text_iff.1 taken
    refine ⟨_, .text (.quotes letters), ?_⟩
    rw [isQuote]
    simp
  · cases read

/-- What is written as a scalar is taken as that scalar. -/
theorem takes_of_scalar {value : Scalar} {octets left : Bytes}
    (written : Grammar.Scalar value octets) (delimited : Delimited left) :
    ∃ first rest outcome, octets ++ left = first :: rest ∧
      scalar? .finished first rest = some outcome ∧ Takes outcome value left := by
  cases written with
  | null => exact ⟨_, _, _, rfl, rfl, takes_literal_iff.2 ⟨rfl, rfl⟩⟩
  | yes => exact ⟨_, _, _, rfl, rfl, takes_literal_iff.2 ⟨rfl, rfl⟩⟩
  | no => exact ⟨_, _, _, rfl, rfl, takes_literal_iff.2 ⟨rfl, rfl⟩⟩
  | @number numeral number octets written denotes =>
    cases written with
    | positive unsigned magnitude =>
      obtain ⟨first, rest, rfl, digit⟩ := magnitude.exists_digit
      have taken := takes_of_magnitude .finished magnitude delimited
      rw [unsigned] at taken
      exact ⟨first, rest ++ left, _, rfl, scalar?_digit digit,
        takes_map.2 ⟨number, takes_number_iff.2 ⟨_, taken, denotes⟩, rfl⟩⟩
    | negative signed magnitude =>
      have taken := takes_of_magnitude .finished magnitude delimited
      rw [signed] at taken
      exact ⟨0x2D, _, _, rfl, rfl,
        takes_map_weaken.2 ⟨number, takes_number_iff.2 ⟨_, taken, denotes⟩, rfl⟩⟩
  | text quoted =>
    obtain ⟨letters⟩ := quoted
    refine ⟨0x22, _, _, rfl, rfl, takes_map_weaken.2 ⟨_, takes_text_iff.2 ⟨_, letters, ?_⟩, rfl⟩⟩
    simp

/-! ## Scalars behind gaps -/

theorem exists_scalar_of_takes {input rest left : Bytes} {first : UInt8} {value : Scalar}
    {outcome : Except Fault (Taken (rest.length + 1) Scalar)}
    (skipped : skipSpace input = first :: rest)
    (read : scalar? .finished first rest = some outcome) (takes : Takes outcome value left) :
    ∃ gap octets, Gap gap ∧ Grammar.Scalar value octets ∧ input = gap ++ octets ++ left := by
  obtain ⟨gap, blank, parts⟩ := exists_gap input
  obtain ⟨octets, written, standing⟩ := scalar_of_takes read takes
  refine ⟨gap, octets, blank, written, ?_⟩
  rw [parts, skipped, standing, List.append_assoc]

theorem exists_takes_of_scalar {gap octets left : Bytes} {value : Scalar} (blank : Gap gap)
    (written : Grammar.Scalar value octets) (delimited : Delimited left) :
    ∃ first rest outcome, skipSpace (gap ++ octets ++ left) = first :: rest ∧
      scalar? .finished first rest = some outcome ∧ Takes outcome value left := by
  obtain ⟨first, rest, outcome, parts, found, taken⟩ := takes_of_scalar written delimited
  refine ⟨first, rest, outcome, ?_, found, taken⟩
  rw [List.append_assoc, parts]
  apply skipSpace_append blank
  obtain ⟨octet, more, same, opens⟩ := written.exists_opens
  rw [same] at parts
  cases parts
  exact stops_cons.2 (isSpace_of_opensScalar opens)

/-! ## Natural numbers -/

/-- A scalar is a natural number exactly if it is written with digits only. -/
theorem scalar_natural_iff {octets : Bytes} {value : Nat} :
    Grammar.Scalar (.number (.natural value)) octets ↔
      Whole octets ∧ digitsValue 0 octets = value ∧ value < UInt64.size := by
  constructor
  · intro written
    cases written with
    | number written denotes =>
      obtain ⟨unsigned, empty, absent, same, small⟩ := number_eq_natural_iff.1 denotes
      cases written with
      | negative signed _ =>
        rw [unsigned] at signed
        cases signed
      | positive _ magnitude =>
        obtain ⟨whole, broken, scaled⟩ := magnitude
        rw [empty] at broken
        rw [absent] at scaled
        cases scaled
        cases broken with
        | absent => simpa using ⟨whole, same, small⟩
        | present shown => exact absurd rfl shown.1
  · rintro ⟨whole, same, small⟩
    have denotes : (⟨false, octets, [], none⟩ : Json.Numeral).number = .ok (.natural value) :=
      number_eq_natural_iff.2 ⟨rfl, rfl, rfl, same, small⟩
    have magnitude : Magnitude ⟨false, octets, [], none⟩ (octets ++ [] ++ []) :=
      .parts whole .absent .absent
    rw [List.append_nil, List.append_nil] at magnitude
    exact .number (.positive rfl magnitude) denotes

end Replay.Json
