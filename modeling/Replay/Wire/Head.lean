import Replay.Event
import Replay.Http.Request
import Replay.Http.Response
import Replay.Wire.FieldMap
import Replay.Wire.Target

/-!
# Heads and replies

A head is what the wire says about a request before its body; a reply is a
response as the wire carries it. A request takes from its head only the field
values that read as text. A response becomes a reply as a whole or not at all.
-/

namespace Replay.Wire

/-- The method, the path and the header fields of a request. -/
structure Head where
  method : String
  path : String
  fields : FieldMap
deriving DecidableEq

/-- Why a head cannot be built. -/
inductive HeadRefusal where
  | method
  | target (refusal : Target.Refusal)
  | field (refusal : FieldRefusal)

/-- The wording of a refusal. -/
def HeadRefusal.message : HeadRefusal → String
  | .method => "invalid HTTP method"
  | .target refusal => refusal.message
  | .field refusal => refusal.message

/-- The method that octets name: any token. -/
def methodOf? (octets : Bytes) : Option String :=
  if !octets.isEmpty && octets.all isTokenOctet then some (asciiText octets) else none

/-- The head with a method, a target and header fields, judged in this order. -/
def Head.build (method target : Bytes) (fields : List (Bytes × Bytes)) :
    Except HeadRefusal Head :=
  match methodOf? method with
  | none => .error .method
  | some method =>
    match Target.path target with
    | .error refusal => .error (.target refusal)
    | .ok path =>
      match FieldMap.ofFields fields with
      | .error refusal => .error (.field refusal)
      | .ok fields => .ok ⟨method, path, fields⟩

/-- The fields whose values read as text. -/
def FieldMap.visible (fields : FieldMap) : Fields :=
  fields.toList.filterMap fun field =>
    (visibleText? field.2).map fun value => (field.1, value)

/-- The request with a head and a body. -/
def Head.request (head : Head) (body : Bytes) : Request :=
  ⟨Method.ofToken head.method, head.path, head.fields.visible, body⟩

/-- A response as it is sent. -/
structure Reply where
  status : Status
  fields : FieldMap
  body : Bytes
deriving DecidableEq

/-- The reply in place of one that cannot be built. -/
def Reply.failed : Reply :=
  ⟨.internalError, .empty, []⟩

/-- The octets of header fields. -/
def encodeFields (fields : Fields) : List (Bytes × Bytes) :=
  fields.map fun field => (Utf8.encode field.1, Utf8.encode field.2)

/-- The reply that sends a response, and what to report if there is none. -/
def Reply.ofResponse (response : Response) : Reply × List Event :=
  match FieldMap.ofFields (encodeFields response.fields) with
  | .ok fields => (⟨response.status, fields, response.body⟩, [])
  | .error refusal => (.failed, [.unsendable refusal.message])

end Replay.Wire
