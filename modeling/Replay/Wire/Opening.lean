import Replay.Wire.Framing
import Replay.Wire.Head

/-!
# Openings

The opening of a request is all of it before the body: the request line and the
header fields. From it follow the head, where the body ends, and whether the
connection stays open. Heads are read as the HTTP/1 server of hyper 1.12 and its parser
httparse read them; this is stated from knowledge of these libraries. There is no bound on
the octets of a head, only on the number of its fields and the length of its target.
-/

namespace Replay.Wire

/-- What the opening of a request says. -/
structure Opening where
  head : Head
  framing : Framing
  version : Version
  keepsOpen : Bool
deriving DecidableEq

/-- The reply to a refused opening. -/
def OpeningRefusal.status : OpeningRefusal → Status
  | .malformed => .badRequest
  | .fieldsTooLarge => .fieldsTooLarge
  | .targetTooLong => .targetTooLong

/-- The parts of a request line. -/
structure RequestLine where
  method : Bytes
  target : Bytes
  version : Version

namespace RequestLine

/-- An octet of a target, before it is judged as one. -/
def isTargetOctet (octet : UInt8) : Bool :=
  0x21 ≤ octet && octet != 0x7F

/-- The version that octets name. -/
def version? (octets : Bytes) : Option Version :=
  if octets = Utf8.encode "HTTP/1.1" then some .oneOne
  else if octets = Utf8.encode "HTTP/1.0" then some .oneZero
  else none

/-- What follows one space. -/
def afterSpace? : Bytes → Option Bytes
  | 0x20 :: rest => some rest
  | _ => none

/-- A request line: a method, a target and a version with one space between them. -/
def read? (line : Bytes) : Option RequestLine := do
  let afterMethod ← afterSpace? (line.dropWhile isTokenOctet)
  let afterTarget ← afterSpace? (afterMethod.dropWhile isTargetOctet)
  let version ← version? afterTarget
  let method := line.takeWhile isTokenOctet
  let target := afterMethod.takeWhile isTargetOctet
  if method.isEmpty || target.isEmpty then none else some ⟨method, target, version⟩

end RequestLine

namespace Opening

/-- A request has at most so many header fields. -/
def mostFields : Nat := 100

/-- The header fields that lines hold. -/
def fieldsOf (lines : List Bytes) : Except OpeningRefusal (List (Bytes × Bytes)) :=
  match (lines.take mostFields).mapM Line.field? with
  | none => .error .malformed
  | some fields => if lines.length ≤ mostFields then .ok fields else .error .fieldsTooLarge

/-- The opening with a request line and header fields. Lengths are judged before what
target and fields say. -/
def ofParts (line : RequestLine) (fields : List (Bytes × Bytes)) :
    Except OpeningRefusal Opening :=
  if line.target.length > Target.longestTarget then .error .targetTooLong
  else if fields.any fun field => field.1.length > FieldMap.longestName then
    .error .fieldsTooLarge
  else
    match Target.path line.target with
    | .error _ => .error .malformed
    | .ok path =>
      match fields.foldlM (Survey.see line.version) (Survey.start line.version) with
      | .error refusal => .error refusal
      | .ok survey =>
        match survey.framing with
        | .error refusal => .error refusal
        | .ok framing =>
          .ok ⟨⟨asciiText line.method, path, survey.fields⟩, framing, line.version,
            survey.keepsOpen⟩

/-- The opening that lines hold, the request line being the first. -/
def ofLines : List Bytes → Except OpeningRefusal Opening
  | [] => .error .malformed
  | line :: lines =>
    match RequestLine.read? line with
    | none => .error .malformed
    | some line =>
      match fieldsOf lines with
      | .error refusal => .error refusal
      | .ok fields => ofParts line fields

end Opening

end Replay.Wire
