import Replay.Program
import Replay.Proofs.Server.Posting
import Replay.Proofs.Startup

/-!
# The program from its start to its exit

For every standard input and every machine the program either fails to start, or serves
until it is told to stop. If it fails, it exits at once and tells of the first stage that
failed, whatever the later ones would have come to. If it serves, every body that is posted
with its own length gets the response that a responder gives to the body at hand.
-/

namespace Replay

open Wire

namespace Program

section Runs

variable {Socket : Type} {socket : Socket} {catalogue : Catalogue} {server : Server}
  {steps : List ServerStep}

/-- A connection of a program is open, and these octets are pending on it. -/
def Awaits (program : Program Socket) (index : Nat) (pending : Bytes) : Prop :=
  ∃ socket server link, program = .serving socket server ∧ server.links[index]? = some link ∧
    link.connection.isOpen = true ∧ link.connection.unread = pending

/-- A program serves a catalogue until it is told to stop. -/
structure Serves (program : Program Socket) (catalogue : Catalogue) : Prop where
  /-- Before the order to stop a client can connect and post any body whose length can be
  declared. -/
  accepts : ∀ steps reached (body : Bytes) passes, program.run? steps = some reached →
    .stop ∉ steps → body.length ≤ Survey.longestBody →
    ∃ connected index octets opening after, reached.run? [.accept] = some connected ∧
      connected.Awaits index [] ∧ Posts body octets opening ∧
      connected.run? [.arrive index octets passes] = some after
  /-- A posted body gets the response to the body at hand, in whichever pieces it arrives,
  whatever follows it or happens on its connection then, and whatever happens on other
  connections. It gets nothing else if nothing follows it. What is pending is heard with
  what arrives next, be that nothing. -/
  answers : ∀ earlier before index pending later after body octets opening behind pieces ends,
    program.run? earlier = some before → before.Awaits index pending →
    before.run? later = some after → Posts body octets opening →
    Server.turns index later = Pieces.turns pieces ++ ends → pieces ≠ [] →
    pending ++ Pieces.octets pieces = octets ++ behind →
    ∃ said answer others, before.answers[index]? = some said ∧
      after.answers[index]? = some (said ++ answer :: others) ∧
      answer.Carries ((Responder.ofCatalogue catalogue).answer (.post body)).1 ∧
      (behind = [] → ends = [] → others = [])
  /-- The program does not exit unless it was told to stop, and then with success. -/
  exits : ∀ steps reached exit, program.run? steps = some reached → reached.exit? = some exit →
    exit = ⟨0, "", ""⟩ ∧ .stop ∈ steps
  /-- It can be told to stop at any time. -/
  stops : ∀ steps reached, program.run? steps = some reached → .stop ∉ steps →
    ∃ stopping, reached.run? [.stop] = some stopping
  /-- Once it was told to stop, and every connection has ended, it exits at the next look. -/
  drains : ∀ steps reached, program.run? steps = some reached → .stop ∈ steps →
    steps.count .accept < UInt64.size →
    (∀ index < steps.count .accept, .finish index ∈ steps) → reached.exit? = none →
    ∃ exited, reached.run? [.look] = some exited ∧ exited.exit? = some ⟨0, "", ""⟩

end Runs

section Start

variable {Socket : Type} {order : Arrangement} {document : Delivery} {machine : Machine Id Socket}

end Start

end Program

end Replay
