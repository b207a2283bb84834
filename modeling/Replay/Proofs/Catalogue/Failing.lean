import Replay.Proofs.Catalogue.Shapes

/-!
# Sources that fail

A source that fails on its way through a document, at the end of the document at the
latest, never yields a catalogue: what it delivered is refused as a document, even if it
is a whole one. What is refused then depends on the octets delivered, and neither on the
parts in which they came nor on what stands behind them. A source that would fail only
later ends with the document and is read as if it could not fail.
-/

namespace Replay

namespace Drafts

/-- Nothing is read from octets behind which their source fails. -/
theorem receive_failed (text : String) (delivered : Bytes) :
    ∃ error, ∀ parts, parts.flatten = delivered →
      receive ⟨parts, .failed text⟩ = .error error := by
  obtain ⟨fault, failed⟩ := scan_failed text delivered
  refine ⟨fault.error .stream delivered, ?_⟩
  rintro parts rfl
  rw [receive_eq, parseStream, Delivery.octets, failed]
  rfl

end Drafts

namespace Delivery

/-- The deliveries of a document from a source that fails with an error behind so many
octets, in whichever parts. A source that would fail behind the document ends with it. -/
inductive FailsAt (text : String) (document : Bytes) (count : Nat) : Delivery → Prop where
  | within {parts : List Bytes} (within : count ≤ document.length)
      (delivered : parts.flatten = document.take count) :
      FailsAt text document count ⟨parts, .failed text⟩
  | behind {parts : List Bytes} (behind : document.length < count)
      (delivered : parts.flatten = document) : FailsAt text document count ⟨parts, .finished⟩

/-- A source that delivers parts of one size is among them. -/
theorem failsAt_failingAfter (text : String) (document : Bytes) (count size : Nat) :
    FailsAt text document count (failingAfter text count document size) := by
  rw [failingAfter]
  split
  · next within => exact .within within (flatten_inParts size _)
  · next behind => exact .behind (Nat.not_le.1 behind) (flatten_inParts size document)

end Delivery

namespace Catalogue

/-- What arrives in parts loads as it does at hand, or is refused for the same fault. -/
theorem receive_cases (parts : List Bytes) :
    receive ⟨parts, .finished⟩ = load parts.flatten ∨
    ∃ fault : Json.Fault,
      load parts.flatten = .error (.document (fault.error .whole parts.flatten)) ∧
      receive ⟨parts, .finished⟩ = .error (.document (fault.error .stream parts.flatten)) := by
  unfold load receive
  rcases Drafts.parse_receive_cases parts with ⟨drafts, parsed, received⟩ |
    ⟨fault, refused, received⟩
  · exact .inl (by rw [parsed, received])
  · exact .inr ⟨fault, by rw [refused]; rfl, by rw [received]; rfl⟩

/-- A source that fails within a document, or right behind it, yields no catalogue and no
refusal of a status: the document is refused, always for the same error as long as the
source fails with the same one, in whichever parts it arrives and whatever would have
followed. From a source that would fail further behind a document loads as it does at
hand, or is refused for the same fault. Sources that deliver parts of one size are among
these. -/
theorem receive_failing (text : String) (document : Bytes) (count : Nat) :
    (count ≤ document.length → ∃ error, ∀ delivery, delivery.FailsAt text document count →
      receive delivery = .error (.document error)) ∧
    (document.length < count → ∀ delivery : Delivery, delivery.FailsAt text document count →
      receive delivery = load document ∨
      ∃ fault : Json.Fault, load document = .error (.document (fault.error .whole document)) ∧
        receive delivery = .error (.document (fault.error .stream document))) ∧
    ∀ size, (Delivery.failingAfter text count document size).FailsAt text document count := by
  refine ⟨?_, ?_, Delivery.failsAt_failingAfter text document count⟩
  · intro within
    obtain ⟨error, failed⟩ := Drafts.receive_failed text (document.take count)
    refine ⟨error, ?_⟩
    rintro delivery (⟨_, delivered⟩ | ⟨behind, _⟩)
    · rw [receive, failed _ delivered, ofParsed_error]
    · omega
  · intro behind
    rintro delivery (⟨within, _⟩ | ⟨_, rfl⟩)
    · omega
    · exact receive_cases _

end Catalogue

end Replay
