import Std.Async
import Replay.Program

/-!
# The server program

Reads the configuration document from standard input, listens at the address of
the settings, and answers requests until it is interrupted. Then it accepts no
more connections and waits until the open ones have ended.
-/

open Std.Async

namespace Replay.Program

/-- The number of an operating system error, which libraries may report negated. -/
def errorNumber (code : UInt32) : UInt32 :=
  if code < 0x80000000 then code else 0 - code

/-- What the operating system calls an error of listening. -/
def errorText (code : UInt32) (otherwise : String) : String :=
  let name? :=
    match errorNumber code with
    | 13 => some "Permission denied"
    | 98 => some "Address already in use"
    | 99 => some "Cannot assign requested address"
    | _ => none
  match name? with
  | none => otherwise
  | some name => name ++ " (os error " ++ toString (errorNumber code).toNat ++ ")"

/-- What the operating system reports. -/
def systemText (error : IO.Error) : String :=
  match error with
  | .resourceBusy code _ | .otherError code _ | .permissionDenied _ code _
  | .unsupportedOperation code _ | .invalidArgument _ code _ | .noSuchThing _ code _ =>
    errorText code (toString error)
  | _ => toString error

/-- What an action gives, or the text of the error that it ends with. -/
def attempt {α : Type} (action : IO α) : IO (Except String α) := do
  try
    return .ok (← action)
  catch error => return .error (systemText error)

/-- What a stream delivers behind the parts that it has delivered, the last one first. -/
partial def deliver (stream : IO.FS.Stream) (delivered : List Bytes) : IO Delivery := do
  match ← attempt (stream.read 65536) with
  | .error text => return ⟨delivered.reverse, .failed text⟩
  | .ok part =>
    if part.isEmpty then return ⟨delivered.reverse, .finished⟩
    else deliver stream (part.toList :: delivered)

/-- The number of processors, of which there is at least one. -/
def countProcessors : IO Nat := do
  match ← attempt (IO.FS.lines "/proc/cpuinfo") with
  | .error _ => return 1
  | .ok lines => return max 1 (lines.filter fun line => line.startsWith "processor").size

/-- The socket address of settings. -/
def socketAddress (settings : Settings) : Std.Net.SocketAddress :=
  match settings.host with
  | .short octets => .v4 ⟨⟨octets⟩, settings.port⟩
  | .long groups => .v6 ⟨⟨groups⟩, settings.port⟩

/-- A socket that listens at the address of settings. -/
def openSocket (settings : Settings) : IO TCP.Socket.Server := do
  let socket ← TCP.Socket.Server.mk
  socket.bind (socketAddress settings)
  socket.noDelay
  socket.listen 1024
  return socket

/-- The machine on which this program runs. Its workers are there from the start. -/
def machine (processors : Nat) : Machine IO TCP.Socket.Server where
  processors
  environment name := do
    return (← IO.getEnv name).map Utf8.encode
  startWorkers _ := return .ok ()
  openSocket settings := attempt (openSocket settings)
  findAddress socket := attempt do
    let _ ← socket.getSockName

/-- Answer the requests of a client until the connection closes. The signal to close is
taken notice of once. -/
partial def converse (responder : Responder) (client : TCP.Socket.Client)
    (stopping : Option Std.CancellationToken) (connection : Connection) : Async Unit := do
  if connection.isOpen then
    let received : Option ByteArray → Turn := fun part =>
      match part with
      | none => .hangUp
      | some part => .arrive part.toList true
    match stopping with
    | none => take none (received (← client.recv? 65536)) connection
    | some signal =>
      let turn ← Selectable.one #[
        .case (client.recvSelector 65536) fun part => return received part,
        .case signal.selector fun _ => return .notice]
      take (if turn = .notice then none else stopping) turn connection
  else client.shutdown
where
  /-- Take a turn, and look for requests that arrived with the one that it completes. -/
  take (stopping : Option Std.CancellationToken) (turn : Turn) (connection : Connection) :
      Async Unit := do
    match connection.exchange responder turn with
    | (connection, none) => converse responder client stopping connection
    | (connection, some (answered, _)) =>
      client.send (ByteArray.mk answered.octets.toArray)
      take stopping (.arrive [] true) connection

/-- Accept clients until the server is interrupted. -/
partial def accept (responder : Responder) (socket : TCP.Socket.Server)
    (interrupted : Signal.Waiter) (stopping : Std.CancellationToken)
    (tracker : Std.Mutex Tracker) : Async Unit := do
  let client? ← Selectable.one #[
    .case socket.acceptSelector fun client => return some client,
    .case interrupted.selector fun _ => return none]
  match client? with
  | none => return
  | some client =>
    tracker.atomically (modify Tracker.begin)
    background do
      try converse responder client (some stopping) .start
      catch _ => pure ()
      tracker.atomically (modify Tracker.finish)
    accept responder socket interrupted stopping tracker

/-- Wait until a waiter finds no connection open. -/
partial def drain (tracker : Std.Mutex Tracker) (waiter : Nat) : IO Unit := do
  let said ← tracker.atomically do
    let (after, said) := (← get).poll waiter
    set after
    return said
  if said = .pending then
    IO.sleep 10
    drain tracker waiter

/-- Serve until interrupted. -/
def serve (responder : Responder) (socket : TCP.Socket.Server) : IO Unit := do
  let interrupted ← Signal.Waiter.mk .sigint false
  let stopping ← Std.CancellationToken.new
  let tracker ← Std.Mutex.new Tracker.start
  (accept responder socket interrupted stopping tracker).block
  stopping.cancel
  let waiter ← tracker.atomically do
    let before ← get
    set before.wait
    return before.waiters.length
  drain tracker waiter

/-- Print what an exit prints, and give its code. -/
def leave (exit : Exit) : IO UInt32 := do
  IO.print exit.output
  IO.eprint exit.errors
  return exit.code.toUInt32

end Replay.Program

open Replay in
/-- The program: exits with success after an interruption, and otherwise with a
report of what kept it from serving. -/
def main : IO UInt32 := do
  let document ← Program.deliver (← IO.getStdin) []
  let machine := Program.machine (← Program.countProcessors)
  match ← Program.start .asListed document machine with
  | .failed reason => Program.leave reason.exit
  | .serving socket server =>
    Program.serve server.responder socket
    Program.leave .served
