import Replay.Json.Source

/-!
# Deliveries

How a document arrives from a source that is read bit by bit: in parts of any
size, after the last of which the source either is at its end or fails.
-/

namespace Replay

/-- The parts that a source delivers, and how it ends. -/
structure Delivery where
  parts : List Bytes
  ending : Json.Ending

namespace Delivery

/-- All that is delivered. -/
def octets (delivery : Delivery) : Bytes :=
  delivery.parts.flatten

/-- Octets in parts of a size; the last part may be smaller. Without a positive
size there is one part. -/
def inParts (size : Nat) (octets : Bytes) : List Bytes :=
  match _later : octets.drop size with
  | [] => [octets]
  | next :: rest =>
    if _ : 0 < size then octets.take size :: inParts size (next :: rest) else [octets]
termination_by octets.length
decreasing_by
  have dropped := congrArg List.length _later
  rw [List.length_drop] at dropped
  rw [List.length_cons] at dropped ⊢
  omega

theorem flatten_inParts (size : Nat) (octets : Bytes) :
    (inParts size octets).flatten = octets := by
  fun_induction inParts size octets with
  | case1 octets _ => simp
  | case2 octets next rest later _ ih => rw [List.flatten_cons, ih, ← later, List.take_append_drop]
  | case3 octets next rest later _ => simp

/-- The delivery of a document in parts of a size by a source that never fails. -/
def unfailing (document : Bytes) (size : Nat) : Delivery :=
  ⟨inParts size document, .finished⟩

/-- The delivery of a document in parts of a size by a source that fails with an error
once so many octets were delivered. A longer way than the document is never covered, so
such a source just ends. -/
def failingAfter (text : String) (count : Nat) (document : Bytes) (size : Nat) : Delivery :=
  if count ≤ document.length then ⟨inParts size (document.take count), .failed text⟩
  else unfailing document size

end Delivery

end Replay
