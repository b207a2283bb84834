import Replay.Responder
import Replay.Wire.Head

/-!
# Intake

Reading the body of a request within a limit, and answering the request. Only
the body of a POST is read, and not beyond the limit. Whatever happens, there is
exactly one reply.
-/

namespace Replay

open Wire

/-- How the parts of a body end. -/
inductive BodyEnd where
  | complete
  /-- The body stops short, or what follows the parts is not a body. -/
  | broken
deriving DecidableEq

/-- A body as it arrives. -/
structure Body where
  parts : List Bytes
  ending : BodyEnd

namespace Body

/-- A body that arrives completely. -/
def complete (parts : List Bytes) : Body :=
  ⟨parts, .complete⟩

/-- Why a body is not read to its end. -/
inductive Stop where
  | overLimit
  | broken
deriving DecidableEq

/-- The octets of the parts as long as they fit into the room. -/
def gather (ending : BodyEnd) : (room : Nat) → List Bytes → Except Stop Bytes
  | _, [] => match ending with
    | .complete => .ok []
    | .broken => .error .broken
  | room, part :: parts =>
    if part.length > room then .error .overLimit
    else (gather ending (room - part.length) parts).map fun rest => part ++ rest

end Body

namespace Wire.Head

/-- Whether the body of a request is read. -/
def wantsBody (head : Head) : Bool :=
  head.method == "POST"

/-- The length that the first field for it declares, if it is a plain number. -/
def declared? (head : Head) : Option Nat := do
  let value ← head.fields.first? Fields.contentLength
  let text ← visibleText? value
  Decimal.readBelow? Request.lengthBound text.toList

end Wire.Head

/-- The report of a connection whose body breaks off. -/
def brokenBody : String := "error reading a body from connection"

/-- The request that arrives with a head and a body. -/
def Request.receive (limit : Nat) (head : Head) (body : Body) : Except Failure Request :=
  if head.wantsBody then
    match Body.gather body.ending limit body.parts with
    | .ok octets => .ok (head.request octets)
    | .error .overLimit => .error (.bodyTooLarge (head.declared?.getD (limit + 1)) limit)
    | .error .broken => .error (.transport brokenBody)
  else .ok (head.request [])

/-- The response to what arrives, and what to report. -/
def Responder.respond (responder : Responder) (head : Head) (body : Body) :
    Response × List Event :=
  match Request.receive responder.bodyLimit head body with
  | .ok request => responder.answer request
  | .error failure => (.invalidRequest, [.unreadable failure])

/-- The reply to what arrives, and what to report. -/
def Responder.handle (responder : Responder) (head : Head) (body : Body) :
    Reply × List Event :=
  let (response, events) := responder.respond head body
  let (reply, more) := Reply.ofResponse response
  (reply, events ++ more)

end Replay
