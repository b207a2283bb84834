import Replay.Json.Error
import Replay.Text.Utf8

/-!
# Sources and faults

A reader works on the octets that are still to be consumed. What it hands on is
a value with the octets left over, of which there are fewer, so that loops over
a document end. What it reports is a fault: a cause and the number of octets
left when it was found. Where the fault lies in the document follows from that
number, from whether the next octet had been looked at, and from whether the
document lay at hand as a whole or arrived octet by octet.
-/

namespace Replay.Json

/-- How a source ends: with the end of the document, or with an error where the next
octet was to be delivered. -/
inductive Ending where
  | finished
  | failed (text : String)
deriving DecidableEq

/-- The error of a source that fails. -/
def Ending.failure? : Ending → Option String
  | .finished => none
  | .failed text => some text

/-- How a document reaches the reader. -/
inductive Supply where
  /-- All octets are at hand. -/
  | whole
  /-- Octets arrive in order, each counted as soon as it was looked at. -/
  | stream
deriving DecidableEq

/-- Where a fault lies relative to the octets consumed. -/
inductive Mark where
  /-- Behind the last octet consumed; the next one has not been looked at. -/
  | consumed
  /-- Behind the last octet consumed, the next one having been looked at. -/
  | beforeNext
  /-- On the next octet. -/
  | onNext
  /-- As many columns before the last octet consumed. -/
  | behind (columns : Nat)
  /-- Outside the document. -/
  | outside

/-- A fault found with `left` octets still to be consumed. -/
structure Fault where
  cause : Cause
  mark : Mark
  left : Nat

/-- The fault of a source that ended where an octet was wanted. -/
def Ending.fault (ending : Ending) (cause : Cause) : Fault :=
  match ending with
  | .finished => ⟨cause, .consumed, 0⟩
  | .failed text => ⟨.sourceFailed text, .consumed, 0⟩

/-- The place of a fault in the document it was found in. -/
def Fault.position (fault : Fault) (supply : Supply) (document : Bytes) : Option Position :=
  let consumed := document.length - fault.left
  let place := fun count => Position.after (document.take count)
  match fault.mark, supply with
  | .outside, _ => none
  | .consumed, _ => some (place consumed)
  | .behind columns, _ =>
    let position := place consumed
    some ⟨position.line, position.column - columns⟩
  | .beforeNext, .whole => some (place consumed)
  | .beforeNext, .stream => some (place (consumed + 1))
  | .onNext, _ => some (place (consumed + 1))

/-- The refusal that a fault amounts to. -/
def Fault.error (fault : Fault) (supply : Supply) (document : Bytes) : Error :=
  ⟨fault.cause, fault.position supply document⟩

/-- What a reader took: a value, and the octets left, of which there are fewer
than `bound`. -/
structure Taken (bound : Nat) (α : Type) where
  value : α
  rest : Bytes
  shorter : rest.length < bound

/-- A reader of values at the front of its input. -/
abbrev Reader (α : Type) := (input : Bytes) → Except Fault (Taken input.length α)

/-- Replace the value that was taken. -/
def Taken.map {bound : Nat} {α β : Type} (change : α → β) (taken : Taken bound α) :
    Taken bound β :=
  ⟨change taken.value, taken.rest, taken.shorter⟩

/-- What was taken below one bound was taken below every larger one. -/
def Taken.weaken {bound larger : Nat} {α : Type} (taken : Taken bound α)
    (fits : bound ≤ larger) : Taken larger α :=
  ⟨taken.value, taken.rest, Nat.lt_of_lt_of_le taken.shorter fits⟩

/-- Space between the parts of a document: blank, tab, line feed, carriage return. -/
def isSpace (octet : UInt8) : Bool :=
  octet == 0x20 || octet == 0x09 || octet == 0x0A || octet == 0x0D

/-- The octets from the first that is not space. -/
def skipSpace (input : Bytes) : Bytes :=
  input.dropWhile isSpace

theorem length_le_succ (input : Bytes) : input.length ≤ input.length + 1 :=
  Nat.le_succ input.length

theorem length_skipSpace_le (input : Bytes) : (skipSpace input).length ≤ input.length :=
  (List.dropWhile_suffix isSpace).length_le

theorem length_lt_of_skipSpace {input rest : Bytes} {octet : UInt8}
    (skipped : skipSpace input = octet :: rest) : rest.length < input.length := by
  have bounded := length_skipSpace_le input
  rw [skipped] at bounded
  exact bounded

/-- Take the letters of a word; the first octet that differs is consumed. -/
def word (ending : Ending) : (letters input : Bytes) → Except Fault Bytes
  | [], input => .ok input
  | _ :: _, [] => .error (ending.fault .endInValue)
  | letter :: letters, octet :: input =>
    if octet = letter then word ending letters input
    else .error ⟨.wordExpected, .consumed, input.length⟩

theorem length_word_le {ending : Ending} {letters input rest : Bytes}
    (taken : word ending letters input = .ok rest) : rest.length ≤ input.length := by
  induction letters generalizing input with
  | nil => simp_all [word]
  | cons letter letters ih =>
    cases input with
    | nil => simp [word] at taken
    | cons octet input =>
      simp only [word] at taken
      split at taken
      · exact Nat.le_succ_of_le (ih taken)
      · simp at taken

end Replay.Json
