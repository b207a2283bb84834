import Replay.Http.Response

/-!
# Stubs

A stub is a status and a body that are replayed as they are. Its status is one
that a response with a body can have, so the body always arrives.
-/

namespace Replay

/-- A status and a body to replay. -/
structure Stub where
  status : Status
  body : Bytes
  carries_body : status.carriesBody = true
deriving DecidableEq

namespace Stub

/-- The stub with a status code and a body, if such a response can be sent. -/
def ofCode? (code : Nat) (body : Bytes) : Option Stub :=
  match Status.ofCode? code with
  | none => none
  | some status =>
    if carries_body : status.carriesBody = true then some ⟨status, body, carries_body⟩
    else none

/-- The response that replays a stub. -/
def toResponse (stub : Stub) : Response :=
  Response.text stub.status stub.body

end Stub

end Replay
