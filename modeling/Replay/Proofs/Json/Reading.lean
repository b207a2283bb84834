import Replay.Proofs.Json.Grammar
import Replay.Proofs.Text.Runs

/-!
# What readers take

The result of a reader carries a bound on the octets left, which proofs about
different inputs cannot share. `Takes` forgets it. The leaves of the grammar that
need no more than that follow: gaps, literal words, the colon and the end of a
document.
-/

namespace Replay.Json

/-- A reader took a value and left a rest. -/
def Takes {bound : Nat} {α : Type} (outcome : Except Fault (Taken bound α)) (value : α)
    (rest : Bytes) : Prop :=
  ∃ shorter, outcome = .ok ⟨value, rest, shorter⟩

section Takes

variable {bound : Nat} {α β : Type}

@[simp] theorem takes_ok {taken : Taken bound α} {value : α} {rest : Bytes} :
    Takes (.ok taken) value rest ↔ taken.value = value ∧ taken.rest = rest := by
  constructor
  · rintro ⟨shorter, same⟩
    cases same
    exact ⟨rfl, rfl⟩
  · rintro ⟨rfl, rfl⟩
    exact ⟨taken.shorter, rfl⟩

theorem takes_mk {taken value : α} {left rest : Bytes} {shorter : left.length < bound} :
    Takes (.ok ⟨taken, left, shorter⟩) value rest ↔ taken = value ∧ left = rest :=
  takes_ok

@[simp] theorem not_takes_error {fault : Fault} {value : α} {rest : Bytes} :
    ¬ Takes (.error fault : Except Fault (Taken bound α)) value rest := by
  rintro ⟨_, same⟩
  cases same

theorem takes_map {outcome : Except Fault (Taken bound α)} {change : α → β} {value : β}
    {rest : Bytes} :
    Takes (outcome.map fun taken => taken.map change) value rest ↔
      ∃ inner, Takes outcome inner rest ∧ change inner = value := by
  cases outcome with
  | error fault => simp [Except.map]
  | ok taken =>
    simp only [Except.map, Taken.map, takes_ok]
    constructor
    · rintro ⟨rfl, rfl⟩
      exact ⟨taken.value, ⟨rfl, rfl⟩, rfl⟩
    · rintro ⟨inner, ⟨rfl, rfl⟩, rfl⟩
      exact ⟨rfl, rfl⟩

theorem takes_weaken {larger : Nat} {outcome : Except Fault (Taken bound α)}
    {fits : bound ≤ larger} {value : α} {rest : Bytes} :
    Takes (outcome.map fun taken => taken.weaken fits) value rest ↔
      Takes outcome value rest := by
  cases outcome with
  | error fault => simp [Except.map]
  | ok taken => simp [Except.map, Taken.weaken]

theorem takes_map_weaken {larger : Nat} {outcome : Except Fault (Taken bound α)}
    {change : α → β} {fits : bound ≤ larger} {value : β} {rest : Bytes} :
    Takes (outcome.map fun taken => (taken.map change).weaken fits) value rest ↔
      ∃ inner, Takes outcome inner rest ∧ change inner = value := by
  rw [← takes_map]
  cases outcome with
  | error fault => simp [Except.map]
  | ok taken => simp [Except.map, Taken.weaken]

theorem mapError_eq_ok_iff {ε δ : Type} {outcome : Except ε α} {change : ε → δ} {value : α} :
    outcome.mapError change = .ok value ↔ outcome = .ok value := by
  cases outcome with
  | error error => constructor <;> exact nofun
  | ok taken => exact ⟨fun same => by cases same; rfl, fun same => by cases same; rfl⟩

theorem takes_of_eq {outcome : Except Fault (Taken bound α)} {taken : Taken bound α}
    (same : outcome = .ok taken) : Takes outcome taken.value taken.rest :=
  ⟨taken.shorter, same⟩

/-- A reader takes at most one value, and leaves one rest. -/
theorem Takes.unique {outcome : Except Fault (Taken bound α)} {value other : α}
    {rest otherRest : Bytes} (takes : Takes outcome value rest)
    (takesOther : Takes outcome other otherRest) : value = other ∧ rest = otherRest := by
  obtain ⟨_, same⟩ := takes
  obtain ⟨_, sameOther⟩ := takesOther
  rw [same] at sameOther
  cases sameOther
  exact ⟨rfl, rfl⟩

end Takes

/-! ## What comes next -/

/-- The octets that may follow a value: none, a gap, a comma or a closing bracket. -/
def Delimited (rest : Bytes) : Prop :=
  ∀ octet ∈ rest.head?, isSpace octet = true ∨ octet = 0x2C ∨ octet = 0x5D ∨ octet = 0x7D

@[simp] theorem delimited_nil : Delimited [] := by
  simp [Delimited]

@[simp] theorem delimited_cons {octet : UInt8} {rest : Bytes} :
    Delimited (octet :: rest) ↔
      isSpace octet = true ∨ octet = 0x2C ∨ octet = 0x5D ∨ octet = 0x7D := by
  simp [Delimited]

/-- No octet of a numeral can follow a value. -/
theorem Delimited.stops {property : UInt8 → Bool} {rest : Bytes} (delimited : Delimited rest)
    (apart : ∀ octet, isSpace octet = true ∨ octet = 0x2C ∨ octet = 0x5D ∨ octet = 0x7D →
      property octet = false) : Stops property rest :=
  fun octet next => apart octet (delimited octet next)

/-! ## Gaps -/

theorem isSpace_iff {octet : UInt8} :
    isSpace octet = true ↔ octet = 0x20 ∨ octet = 0x09 ∨ octet = 0x0A ∨ octet = 0x0D := by
  simp [isSpace, or_assoc]

theorem gap_iff {octets : Bytes} :
    Grammar.Gap octets ↔ ∀ octet ∈ octets, isSpace octet = true := by
  simp only [Grammar.Gap, isSpace_iff]

theorem gap_nil : Grammar.Gap [] := by
  simp [Grammar.Gap]

theorem skipSpace_append {gap rest : Bytes} (blank : Grammar.Gap gap)
    (stops : Stops isSpace rest) : skipSpace (gap ++ rest) = rest :=
  dropWhile_append_of_stops (gap_iff.1 blank) stops

theorem skipSpace_bracketed {gap octets left : Bytes} {opening closing : UInt8}
    (blank : Grammar.Gap gap) (noSpace : isSpace opening = false) :
    skipSpace (gap ++ (opening :: octets ++ [closing]) ++ left) =
      opening :: (octets ++ closing :: left) := by
  rw [show gap ++ (opening :: octets ++ [closing]) ++ left =
    gap ++ (opening :: (octets ++ closing :: left)) by simp]
  exact skipSpace_append blank (stops_cons.2 noSpace)

/-- What was skipped is a gap. -/
theorem exists_gap (input : Bytes) :
    ∃ gap, Grammar.Gap gap ∧ input = gap ++ skipSpace input := by
  exact ⟨input.takeWhile isSpace, gap_iff.2 (forall_mem_takeWhile isSpace input),
    List.takeWhile_append_dropWhile.symm⟩

/-! ## Words and punctuation -/

theorem word_eq_ok_iff {ending : Ending} {letters input rest : Bytes} :
    word ending letters input = .ok rest ↔ input = letters ++ rest := by
  induction letters generalizing input with
  | nil => simp [word]
  | cons letter letters ih =>
    cases input with
    | nil => simp [word]
    | cons octet input =>
      by_cases same : octet = letter
      · simp [word, same, ih]
      · simp [word, same]

theorem takes_colon_iff {ending : Ending} {input rest : Bytes} :
    Takes (colon ending input) () rest ↔ skipSpace input = 0x3A :: rest := by
  unfold colon
  split
  · next skipped => simp [skipped]
  · next octet left skipped =>
    by_cases isColon : octet = 0x3A
    · simp [skipped, isColon]
    · simp [skipped, isColon]

theorem atEnd_eq_ok_iff {input : Bytes} :
    atEnd .finished input = .ok () ↔ Grammar.Gap input := by
  constructor
  · intro ended
    obtain ⟨gap, blank, parts⟩ := exists_gap input
    unfold atEnd at ended
    split at ended
    · next skipped _ =>
      rw [skipped, List.append_nil] at parts
      rwa [parts]
    · cases ended
    · cases ended
  · intro blank
    have skipped := skipSpace_append blank (stops_nil isSpace)
    rw [List.append_nil] at skipped
    unfold atEnd
    rw [skipped]

end Replay.Json
