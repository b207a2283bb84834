import Replay.Server.Lifecycle
import Replay.Settings

/-!
# Start-up

What becomes of a server that is started with a configuration document on a machine: it
either serves, or it fails at the first stage that does not succeed and reports what
stage that was and why. The stages are the document, the settings, the workers, the
socket and its address. What a stage asks of the machine may have effects; a stage behind
the first one that fails asks for nothing.
-/

namespace Replay

/-- The machine that a server is started on, as far as a start-up asks it: it gives what it
is asked for, or the text of an error. Sockets are whatever it takes them for. -/
structure Machine (m : Type → Type) (Socket : Type) where
  processors : Nat
  /-- The octets of a variable of the environment. -/
  environment : String → m (Option Bytes)
  /-- Start so many workers. -/
  startWorkers : Nat → m (Except String Unit)
  /-- Open a socket that listens at the address of settings. -/
  openSocket : Settings → m (Except String Socket)
  /-- Find the address at which a socket listens. It is wanted for the log, and without
  one nothing is asked and nothing fails. -/
  findAddress : Socket → m (Except String Unit)

namespace Machine

variable {m : Type → Type} [Monad m] {Socket : Type}

/-- Listen at the address of settings. -/
def listen (machine : Machine m Socket) (settings : Settings) : m (Except Failure Socket) := do
  return (← machine.openSocket settings).mapError .system

/-- The address at which a socket listens. -/
def localAddress (machine : Machine m Socket) (socket : Socket) : m (Except Failure Unit) := do
  return (← machine.findAddress socket).mapError .system

end Machine

/-- A start-up that failed, by the stage at which it did. -/
inductive StartupFailure where
  | document (failure : Failure)
  | settings (failure : Failure)
  /-- The machine reports an error of the workers, which is no failure of the server. -/
  | workers (text : String)
  /-- The server cannot listen at an address. -/
  | listening (address : String) (failure : Failure)
  /-- The address at which the server listens cannot be found. -/
  | unlocated (failure : Failure)

namespace StartupFailure

/-- The failure of the server, if it is one. -/
def failure? : StartupFailure → Option Failure
  | .document failure | .settings failure | .listening _ failure | .unlocated failure =>
    some failure
  | .workers _ => none

/-- What was being done, or else what failed. -/
def context : StartupFailure → String
  | .document _ => "Failed to load configuration from stdin"
  | .settings _ => "Failed to read server configuration"
  | .workers _ => "Failed to start runtime"
  | .listening address _ => "Failed to bind " ++ address
  | .unlocated failure => failure.message

/-- What stands beneath the context, the immediate cause first. -/
def causes : StartupFailure → List String
  | .document failure | .settings failure | .listening _ failure =>
    failure.message :: failure.source?.toList
  | .workers text => [text]
  | .unlocated failure => failure.source?.toList

/-- A text behind a label. Its further lines begin under its first. -/
def labelled (label text : String) : String :=
  let lineStart := '\n' :: List.replicate label.length ' '
  label ++ String.ofList (text.toList.flatMap fun character =>
    if character = '\n' then lineStart else [character])

/-- The causes as they are listed. A single one has no number. -/
def listing : List String → List String
  | [cause] => [labelled "    " cause]
  | causes => causes.zipIdx.map fun cause => labelled ("    " ++ toString cause.2 ++ ": ") cause.1

/-- What is printed about a failed start-up. -/
def report (failed : StartupFailure) : String :=
  "Error: " ++ failed.context ++ "\n\nCaused by:\n"
    ++ String.join ((listing failed.causes).map (· ++ "\n"))

/-- The code with which the program exits. -/
def exitCode : UInt8 := 1

end StartupFailure

/-- A server that is ready to serve, and the socket at which it listens. -/
structure Ready (Socket : Type) where
  socket : Socket
  server : Server

/-- The server of settings. -/
def Settings.server (settings : Settings) (catalogue : Catalogue) : Server :=
  .start ((Responder.ofCatalogue catalogue).withBodyLimit settings.bodyLimit)

/-- Start up: load the document, read the settings, start the workers, listen, and find the
address for the log. -/
def startUp {m : Type → Type} [Monad m] {Socket : Type} (order : Arrangement)
    (document : Delivery) (machine : Machine m Socket) :
    m (Except StartupFailure (Ready Socket)) := do
  match Catalogue.receiveIn order document with
  | .error failure => return .error (.document failure)
  | .ok catalogue =>
    match ← Settings.readEnvironment machine.processors machine.environment with
    | .error failure => return .error (.settings failure)
    | .ok settings =>
      match ← machine.startWorkers settings.workers with
      | .error text => return .error (.workers text)
      | .ok () =>
        match ← machine.listen settings with
        | .error failure => return .error (.listening settings.listenText failure)
        | .ok socket =>
          match ← machine.localAddress socket with
          | .error failure => return .error (.unlocated failure)
          | .ok () => return .ok ⟨socket, settings.server catalogue⟩

/-- The stages of a start-up on a machine that gives what it is asked for without effects. -/
theorem startUp_eq {Socket : Type} (order : Arrangement) (document : Delivery)
    (machine : Machine Id Socket) :
    startUp order document machine =
      match Catalogue.receiveIn order document with
      | .error failure => .error (.document failure)
      | .ok catalogue =>
        match Settings.ofEnvironment machine.processors machine.environment with
        | .error failure => .error (.settings failure)
        | .ok settings =>
          match machine.startWorkers settings.workers with
          | .error text => .error (.workers text)
          | .ok () =>
            match machine.listen settings with
            | .error failure => .error (.listening settings.listenText failure)
            | .ok socket =>
              match machine.localAddress socket with
              | .error failure => .error (.unlocated failure)
              | .ok () => .ok ⟨socket, settings.server catalogue⟩ := by
  rfl

end Replay
