/-!
# Status codes

The three-digit status of a response, and which of them HTTP/1.1 sends together
with a body.
-/

namespace Replay

/-- A status code of three digits. -/
structure Status where
  code : Nat
  three_digits : 100 ≤ code ∧ code < 1000
deriving DecidableEq

namespace Status

/-- The status with a code, if the code has three digits. -/
def ofCode? (code : Nat) : Option Status :=
  if three_digits : 100 ≤ code ∧ code < 1000 then some ⟨code, three_digits⟩ else none

/-- Whether a response with this status is sent with a body: informational
responses, 204 and 304 are not. -/
def carriesBody (status : Status) : Bool :=
  !(status.code < 200 || status.code == 204 || status.code == 304)

/-- Success. -/
def ok : Status := ⟨200, by decide⟩

/-- The request is refused. -/
def badRequest : Status := ⟨400, by decide⟩

/-- The target of the request is too long. -/
def targetTooLong : Status := ⟨414, by decide⟩

/-- The header fields of the request are too many or too long. -/
def fieldsTooLarge : Status := ⟨431, by decide⟩

/-- The response could not be built. -/
def internalError : Status := ⟨500, by decide⟩

/-- The method is not supported. -/
def notImplemented : Status := ⟨501, by decide⟩

end Status

end Replay
