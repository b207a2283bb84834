import Replay.Net.Address
import Replay.Responder

/-!
# Settings

Where the server listens, how many workers serve, and how large a body may be. The port
can be set in the environment; everything else has its default. A port that is set but
not a number of sixteen bits is refused, never passed over. The default of the workers
is the number of processors, which the machine knows; it has at least one.
-/

namespace Replay

/-- The settings of a server. -/
structure Settings where
  host : Address
  port : UInt16
  workers : Nat
  bodyLimit : Nat
deriving DecidableEq

namespace Settings

/-- The variable that holds the port. -/
def portVariable : String := "TEST_SERVER_PORT"

/-- The port unless another one is set. -/
def defaultPort : UInt16 := 7986

/-- The settings unless others are made: there is a worker for each processor. -/
def standard (processors : Nat) : Settings :=
  ⟨.unspecified, defaultPort, processors, Responder.defaultBodyLimit⟩

/-- Set the port. -/
def withPort (settings : Settings) (port : UInt16) : Settings :=
  { settings with port }

/-- Set the address. -/
def withHost (settings : Settings) (host : Address) : Settings :=
  { settings with host }

/-- Where the server listens, as text. -/
def listenText (settings : Settings) : String :=
  settings.host.withPort settings.port.toNat

/-- The settings with the port that a text denotes, if there is a text. -/
def ofPortText (processors : Nat) (text : Option String) : Except Failure Settings :=
  match text with
  | none => .ok (standard processors)
  | some text =>
    match Decimal.readTrimmedBelow? UInt16.size text with
    | none => .error (.portInvalid text)
    | some port => .ok ((standard processors).withPort (UInt16.ofNat port))

/-- The settings that variables make. The look-up may have effects, and is asked
for nothing but the port. -/
def readWith {m : Type → Type} [Monad m] (processors : Nat)
    (lookUp : String → m (Option String)) : m (Except Failure Settings) := do
  return ofPortText processors (← lookUp portVariable)

/-- The settings that variables make. -/
def read (processors : Nat) (lookUp : String → Option String) : Except Failure Settings :=
  Id.run (readWith processors lookUp)

/-- The variables that are asked for, in order, when the settings are made. -/
def asked (processors : Nat) (lookUp : String → Option String) : List String :=
  let record : String → StateM (List String) (Option String) := fun name => do
    modify (· ++ [name])
    return lookUp name
  ((readWith processors record).run []).2

/-- The settings that an environment makes, which may have effects when it is asked. A
variable whose octets are not text counts as unset. -/
def readEnvironment {m : Type → Type} [Monad m] (processors : Nat)
    (environment : String → m (Option Bytes)) : m (Except Failure Settings) :=
  readWith processors fun name => do
    return (← environment name).bind Utf8.decode?

/-- The settings that an environment makes. -/
def ofEnvironment (processors : Nat) (environment : String → Option Bytes) :
    Except Failure Settings :=
  Id.run (readEnvironment processors environment)

end Settings

end Replay
