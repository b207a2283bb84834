import Replay.Server.Intake
import Replay.Wire.Opening

/-!
# Connections

One connection of a client: the octets that arrived and are not yet consumed, and
whether the connection stays open. What is heard on a connection is answered at once,
one request after the other. Hearing needs to know how long a body may be, but not what
is answered. An opening that cannot be understood is answered by the connection itself,
which then closes. A connection that is told to close does so at once if no request is
in progress, else behind the answer to that request, which says so.

The rules are those of the HTTP/1 server of hyper 1.12 on a connection that it serves
with its usual settings; the heads and bodies are in `Wire`. They are stated from
knowledge of that library and are not compared with it. Left out are interim replies and
the bound on the octets of a head.
-/

namespace Replay

open Wire

/-- What a connection does behind its next answer. -/
inductive Keeping where
  /-- A request was answered, and the next one is not understood yet. -/
  | idle
  /-- A request is in progress, or the first one is not understood yet. -/
  | busy
  /-- The connection closes behind the next answer. -/
  | last
deriving DecidableEq

/-- The opening of a request is understood. -/
def Keeping.begin : Keeping → Keeping
  | .last => .last
  | .idle | .busy => .busy

/-- A connection. -/
structure Connection where
  unread : Bytes
  /-- The version of the latest request that was understood. -/
  version : Version
  keeping : Keeping
  isOpen : Bool

/-- What can happen to a connection. -/
inductive Turn where
  /-- Octets arrive. If a request is answered before the end of its body was read, it is
  left to the connection whether it passes over the rest or closes behind the answer. -/
  | arrive (octets : Bytes) (passes : Bool)
  /-- The client sends no more. -/
  | hangUp
  /-- The connection is told to close. -/
  | notice
deriving DecidableEq

/-- What a connection hears: a request with what arrived of its body, or an opening that
cannot be understood. -/
inductive Heard where
  | request (opening : Opening) (body : Body)
  /-- The answer has the version of the latest request that was understood. -/
  | refused (version : Version) (refusal : OpeningRefusal)

/-- An answer as the client receives it. The answer to a HEAD request has the
fields of the reply, but not its body. -/
structure Answer where
  version : Version
  reply : Reply
  /-- What the server says about the connection, if anything. -/
  connection : Option String
  body : Bytes

namespace Answer

/-- The text of the first field with a name in small letters. -/
def field? (answer : Answer) (name : String) : Option String :=
  (answer.reply.fields.first? name).bind Utf8.decode?

/-- The line end on the wire. -/
def lineEnd : Bytes := [0x0D, 0x0A]

/-- The line of a header field. -/
def fieldLine (name : String) (value : Bytes) : Bytes :=
  Utf8.encode name ++ Utf8.encode ": " ++ value ++ lineEnd

/-- The answer as octets: the status without a phrase, the header fields, an empty
line, and the body. -/
def octets (answer : Answer) : Bytes :=
  let protocol := match answer.version with
    | .oneZero => "HTTP/1.0 "
    | .oneOne => "HTTP/1.1 "
  let announced := match answer.connection with
    | none => []
    | some word => fieldLine "connection" (Utf8.encode word)
  Utf8.encode (protocol ++ toString answer.reply.status.code ++ " ") ++ lineEnd
    ++ answer.reply.fields.toList.flatMap (fun field => fieldLine field.1 field.2)
    ++ announced ++ lineEnd ++ answer.body

end Answer

namespace Connection

/-- A connection on which nothing has arrived. -/
def start : Connection :=
  ⟨[], .oneOne, .busy, true⟩

/-- A closed connection. -/
def closed (connection : Connection) : Connection :=
  { connection with unread := [], isOpen := false }

/-- What the server says about a connection: each version leaves its usual way
unsaid. -/
def announcement (version : Version) (keepsOpen : Bool) : Option String :=
  match version, keepsOpen with
  | .oneOne, false => some "close"
  | .oneZero, true => some "keep-alive"
  | _, _ => none

/-- The reply of the connection itself: no content. -/
def refusal (status : Status) : Reply :=
  ⟨status, ⟨[(Fields.contentLength, [Utf8.encode "0"])]⟩, []⟩

/-- Whether nothing of a body is left unread for certain: there is no body, or it is
awaited, its length is declared and the limit allows it. A coded body may end with a
trailer, which is not read. -/
def readsToEnd (limit : Nat) (opening : Opening) : Bool :=
  match opening.framing with
  | .empty => true
  | .sized length => length == 0 || opening.head.wantsBody && decide (length ≤ limit)
  | .chunked => false

/-- The body that arrived, or none if more of it is awaited before the request can
be answered. A body over the limit is not awaited. -/
def bodyOf? (limit : Nat) (head : Head) (arrival : Arrival) : Option Body :=
  match arrival.rest with
  | .ok _ => some ⟨arrival.parts, .complete⟩
  | .error .broken => some ⟨arrival.parts, .broken⟩
  | .error .awaited =>
    if head.wantsBody && arrival.parts.flatten.length ≤ limit then none
    else some ⟨arrival.parts, .broken⟩

/-- A connection behind a request. It goes on with what follows the body, if both sides
want that, the end of the body is known, and what was not read of it is passed over. -/
def behind (connection : Connection) (limit : Nat) (passes : Bool) (opening : Opening)
    (arrival : Arrival) : Connection :=
  let after : Connection := { connection with version := opening.version }
  match arrival.rest with
  | .ok rest =>
    if opening.keepsOpen && (readsToEnd limit opening || passes) then
      { after with unread := rest, keeping := .idle }
    else after.closed
  | .error _ => after.closed

/-- Hear a request whose opening was understood, if enough of its body arrived. -/
def hearOpening (connection : Connection) (limit : Nat) (passes : Bool) (opening : Opening)
    (input : Bytes) : Connection × Option Heard :=
  let arrival := opening.framing.arrival input
  match bodyOf? limit opening.head arrival with
  | none => ({ connection with keeping := connection.keeping.begin }, none)
  | some body => (connection.behind limit passes opening arrival, some (.request opening body))

/-- An opening as the connection agrees to it: one that closes behind the next answer does
not stay open for a client that wants it to. -/
def agreed (connection : Connection) (opening : Opening) : Opening :=
  { opening with keepsOpen := opening.keepsOpen && connection.keeping ≠ .last }

/-- The opening that is pending and what follows it, if all of the opening arrived. -/
def pending? (connection : Connection) : Option (Except OpeningRefusal (Opening × Bytes)) :=
  match Line.block? connection.unread with
  | none => none
  | some (lines, rest) =>
    some ((Opening.ofLines lines).map fun opening => (connection.agreed opening, rest))

/-- Receive octets, and hear what they complete, if they complete anything. -/
def receive (connection : Connection) (limit : Nat) (arrived : Bytes) (passes : Bool) :
    Connection × Option Heard :=
  let connection := { connection with unread := connection.unread ++ arrived }
  match connection.pending? with
  | none => (connection, none)
  | some (.ok (opening, rest)) => connection.hearOpening limit passes opening rest
  | some (.error refusal) => (connection.closed, some (.refused connection.version refusal))

/-- No more octets arrive. A request breaks off if its body is awaited, and the connection
closes. What is complete is heard first, so the end is not noticed before that. -/
def hangUp (connection : Connection) (limit : Nat) : Connection × Option Heard :=
  match connection.pending? with
  | none => (connection.closed, none)
  | some (.ok (opening, rest)) =>
    let arrival := opening.framing.arrival rest
    match bodyOf? limit opening.head arrival with
    | none => (connection.closed, some (.request opening ⟨arrival.parts, .broken⟩))
    | some _ => (connection, none)
  | some (.error _) => (connection, none)

/-- Close, at once or behind the request in progress. Where nothing has arrived yet, none
is in progress. -/
def notice (connection : Connection) : Connection :=
  if connection.keeping = .idle ∨ connection.unread = [] then connection.closed
  else { connection with keeping := .last }

/-- Take a turn, and hear what it completes. A closed connection hears nothing. -/
def hear (connection : Connection) (limit : Nat) (turn : Turn) : Connection × Option Heard :=
  if !connection.isOpen then (connection, none)
  else
    match turn with
    | .arrive octets passes => connection.receive limit octets passes
    | .hangUp => connection.hangUp limit
    | .notice => (connection.notice, none)

end Connection

/-- The answer to what a connection hears, and what to report. -/
def Responder.reply (responder : Responder) : Heard → Answer × List Event
  | .request opening body =>
    let (reply, events) := responder.handle opening.head body
    (⟨opening.version, reply, Connection.announcement opening.version opening.keepsOpen,
      if opening.head.method = "HEAD" then [] else reply.body⟩, events)
  | .refused version refusal =>
    (⟨version, Connection.refusal refusal.status, Connection.announcement version false, []⟩, [])

/-- Take a turn and answer the request it completes, if there is one. -/
def Connection.exchange (connection : Connection) (responder : Responder) (turn : Turn) :
    Connection × Option (Answer × List Event) :=
  let (after, heard) := connection.hear responder.bodyLimit turn
  (after, heard.map responder.reply)

end Replay
