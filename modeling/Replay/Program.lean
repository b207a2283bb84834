import Replay.Startup

/-!
# The program

The program from its start to its exit. If it fails to start, it exits at once and says
why; else it serves, and exits once its server has been told to stop and has found no
connection open. What is logged on the way is not part of this account.
-/

namespace Replay

/-- How the program exits: its code, and what it has printed besides the log. -/
structure Exit where
  code : UInt8
  /-- What stands on standard output. -/
  output : String
  /-- What stands on standard error. -/
  errors : String
deriving DecidableEq

/-- The exit of a program that failed to start. -/
def StartupFailure.exit (failed : StartupFailure) : Exit :=
  ⟨StartupFailure.exitCode, "", failed.report⟩

/-- The exit of a program that has served. -/
def Exit.served : Exit := ⟨0, "", ""⟩

/-- The program: it failed to start, or its server is at work at a socket. -/
inductive Program (Socket : Type) where
  | failed (reason : StartupFailure)
  | serving (socket : Socket) (server : Server)

namespace Program

variable {Socket : Type}

/-- Start the program on a machine, with a document on its standard input. -/
def start {m : Type → Type} [Monad m] (order : Arrangement) (document : Delivery)
    (machine : Machine m Socket) : m (Program Socket) := do
  match ← startUp order document machine with
  | .error reason => return .failed reason
  | .ok ready => return .serving ready.socket ready.server

/-- A sequence of steps, if all of them are possible. A program that failed to start
has no server to take any. -/
def run? : Program Socket → List ServerStep → Option (Program Socket)
  | .serving socket server, steps => (server.run? steps).map (.serving socket)
  | .failed reason, [] => some (.failed reason)
  | .failed _, _ :: _ => none

/-- How the program has exited, if it has. -/
def exit? : Program Socket → Option Exit
  | .failed reason => some reason.exit
  | .serving _ server => if server.phase = .stopped then some .served else none

/-- What was answered on each connection, in the order of acceptance. -/
def answers : Program Socket → List (List Answer)
  | .failed _ => []
  | .serving _ server => server.links.map fun link => link.answers.map Prod.fst

end Program

end Replay
