import Replay.Server.Connection
import Replay.Server.Tracker

/-!
# The life of a server

A server accepts connections until it is told to stop; then it accepts no more,
signals every open connection to close, and has stopped once it has found no
connection open. Each connection goes its own way in between: it exchanges
requests for answers, takes notice of the closing signal, which closes it or makes the
request in progress its last, and ends.
-/

namespace Replay

/-- Where a connection is in its life. -/
inductive Stage where
  /-- Open, and not told to close. -/
  | serving
  /-- Open, with the closing signal pending. -/
  | signalled
  /-- Open, with the closing signal taken notice of. -/
  | closing
  | ended
deriving DecidableEq

namespace Stage

/-- Whether a connection has not ended. -/
def isOpen (stage : Stage) : Bool :=
  stage != .ended

/-- The closing signal reaches a connection. -/
def signal : Stage → Stage
  | .serving => .signalled
  | stage => stage

end Stage

/-- A connection that was accepted: where it is in its life, and what was answered
on it, in order. -/
structure Link where
  stage : Stage
  connection : Connection
  answers : List (Answer × List Event)

/-- A connection that has just been accepted. -/
def Link.start : Link :=
  ⟨.serving, .start, []⟩

/-- Take a turn on a connection. -/
def Link.exchange (link : Link) (responder : Responder) (turn : Turn) : Link :=
  let (connection, answered) := link.connection.exchange responder turn
  { link with connection, answers := link.answers ++ answered.toList }

/-- What a server as a whole is doing. -/
inductive Phase where
  | accepting
  /-- Waiting for open connections with the waiter of a number. -/
  | draining (waiter : Nat)
  | stopped
deriving DecidableEq

/-- A server: what it is doing, and its connections in the order of acceptance. -/
structure Server where
  responder : Responder
  phase : Phase
  tracker : Tracker
  links : List Link

/-- What can happen to a server. -/
inductive ServerStep where
  /-- A connection is accepted. -/
  | accept
  /-- Accepting fails; the server tries again. -/
  | acceptFailed
  /-- Octets arrive on the connection of a number, which may pass over what it does not
  read of a body. -/
  | arrive (link : Nat) (octets : Bytes) (passes : Bool)
  /-- The client of a connection sends no more. -/
  | hangUp (link : Nat)
  /-- A connection takes notice of the closing signal. -/
  | notice (link : Nat)
  /-- A connection ends. -/
  | finish (link : Nat)
  /-- The server is told to stop. -/
  | stop
  /-- The server looks whether connections are open. -/
  | look
deriving DecidableEq

namespace Server

/-- A server that has accepted nothing. -/
def start (responder : Responder) : Server :=
  ⟨responder, .accepting, .start, []⟩

/-- The number of connections that have not ended. -/
def openLinks (server : Server) : Nat :=
  server.links.countP fun link => link.stage.isOpen

/-- Accept a connection. -/
def accept (server : Server) : Server :=
  { server with tracker := server.tracker.begin, links := server.links ++ [.start] }

/-- Stop accepting, signal the connections, and wait. -/
def stop (server : Server) : Server :=
  { server with
    phase := .draining server.tracker.waiters.length
    tracker := server.tracker.wait
    links := server.links.map fun link => { link with stage := link.stage.signal } }

/-- Look whether connections are open. -/
def look (server : Server) (waiter : Nat) : Server :=
  let (tracker, said) := server.tracker.poll waiter
  { server with tracker, phase := if said = .ready then .stopped else server.phase }

/-- Replace the connection of a number. -/
def setLink (server : Server) (index : Nat) (link : Link) : Server :=
  { server with links := server.links.set index link }

/-- A connection that has not ended takes a turn. -/
def turn? (server : Server) (index : Nat) (turn : Turn) : Option Server :=
  match server.links[index]? with
  | none => none
  | some link =>
    if link.stage.isOpen then some (server.setLink index (link.exchange server.responder turn))
    else none

/-- One step, if it is possible. -/
def step? (server : Server) : ServerStep → Option Server
  | .accept => if server.phase = .accepting then some server.accept else none
  | .acceptFailed => if server.phase = .accepting then some server else none
  | .arrive index octets passes => server.turn? index (.arrive octets passes)
  | .hangUp index => server.turn? index .hangUp
  | .notice index =>
    match server.links[index]? with
    | none => none
    | some link =>
      if link.stage = .signalled then
        let noticed := link.exchange server.responder .notice
        some (server.setLink index { noticed with stage := .closing })
      else none
  | .finish index =>
    match server.links[index]? with
    | none => none
    | some link =>
      if link.stage.isOpen then
        let ended := server.setLink index { link with stage := .ended }
        some { ended with tracker := server.tracker.finish }
      else none
  | .stop => if server.phase = .accepting then some server.stop else none
  | .look =>
    match server.phase with
    | .draining waiter => some (server.look waiter)
    | _ => none

/-- A sequence of steps, if all of them are possible. -/
def run? (server : Server) (steps : List ServerStep) : Option Server :=
  steps.foldlM step? server

/-- The steps of clients that come one after the other, each sending its requests
in turn, before the server is told to stop and every connection ends. -/
def visit (clients : List (List Bytes)) : List ServerStep :=
  let sent := clients.zipIdx.flatMap fun client =>
    .accept :: client.1.map fun octets => .arrive client.2 octets true
  let leave := (List.range clients.length).flatMap fun index => [.notice index, .finish index]
  sent ++ .stop :: leave ++ [.look]

end Server

end Replay
