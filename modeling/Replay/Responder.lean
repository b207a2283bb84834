import Replay.Catalogue
import Replay.Event
import Replay.Http.Request
import Replay.Json.Value

/-!
# Responders

A responder answers each request from its catalogue. The body of a POST is a
JSON object whose member `id` names the stub. A request that selects no stub is
answered in one way whatever is wrong with it; the cause is only reported.
-/

namespace Replay

/-- The identifier that a body names: the last member `id` of an object, if it
is a text. -/
def readIdentifier (body : Bytes) : Except Failure String :=
  match Json.Value.parse body with
  | .error error => .error (.bodyMalformed error)
  | .ok (.object members) =>
    match Json.Value.member? "id" members with
    | some (.scalar (.text identifier)) => .ok identifier
    | _ => .error .identifierMissing
  | .ok _ => .error .identifierMissing

/-- A catalogue, and the largest body that is read. -/
structure Responder where
  catalogue : Catalogue
  bodyLimit : Nat

namespace Responder

/-- The limit on bodies unless another one is set: 1 MiB. -/
def defaultBodyLimit : Nat := 1024 * 1024

/-- A responder with the usual limit on bodies. -/
def ofCatalogue (catalogue : Catalogue) : Responder :=
  ⟨catalogue, defaultBodyLimit⟩

/-- Set the limit on bodies. -/
def withBodyLimit (responder : Responder) (bodyLimit : Nat) : Responder :=
  { responder with bodyLimit }

/-- The stub that a body names. -/
def lookUp (responder : Responder) (body : Bytes) : Except Failure Stub :=
  match readIdentifier body with
  | .error failure => .error failure
  | .ok identifier =>
    match responder.catalogue.resolve? identifier with
    | none => .error (.identifierUnknown identifier)
    | some stub => .ok stub

/-- The stub that a request selects if it is a POST. -/
def select (responder : Responder) (request : Request) : Except Failure Stub :=
  match request.declaredLength with
  | .error failure => .error failure
  | .ok declared =>
    if declared > responder.bodyLimit then .error (.bodyTooLarge declared responder.bodyLimit)
    else if request.body.length ≠ declared then
      .error (.lengthMismatch declared request.body.length)
    else responder.lookUp request.body

/-- The response to a request, and what to report about it. -/
def answer (responder : Responder) (request : Request) : Response × List Event :=
  match request.method with
  | .other token => (.unsupportedMethod, [.unsupportedMethod token request.path])
  | .post =>
    match responder.select request with
    | .ok stub => (stub.toResponse, [])
    | .error failure => (.invalidRequest, [.rejected request.path failure])

end Responder

end Replay
