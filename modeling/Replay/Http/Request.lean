import Replay.Failure
import Replay.Http.Fields
import Replay.Http.Method
import Replay.Text.Decimal
import Replay.Text.Utf8

/-!
# Requests

A request with its whole body, and the length that its header fields declare.
-/

namespace Replay

/-- A request. The path is without a query. -/
structure Request where
  method : Method
  path : String
  fields : Fields
  body : Bytes

namespace Request

/-- A request without header fields and body. -/
def start (method : Method) (path : String) : Request :=
  ⟨method, path, [], []⟩

/-- Append a header field. -/
def withField (request : Request) (name value : String) : Request :=
  { request with fields := request.fields ++ [(name, value)] }

/-- Append header fields. -/
def withFields (request : Request) (fields : Fields) : Request :=
  fields.foldl (fun request field => request.withField field.1 field.2) request

/-- Replace the body. -/
def withBody (request : Request) (body : Bytes) : Request :=
  { request with body }

/-- A POST to the root that declares the length of its body. -/
def post (body : Bytes) : Request :=
  ((start .post "/").withField Fields.contentLength (Decimal.write body.length)).withBody body

/-- The value of the first header field with a name. -/
def field? (request : Request) (name : String) : Option String :=
  request.fields.first? name

/-- Declared lengths lie below this bound. -/
def lengthBound : Nat := UInt64.size

/-- The length that the request declares for its body. -/
def declaredLength (request : Request) : Except Failure Nat :=
  match request.field? Fields.contentLength with
  | none => .error .lengthMissing
  | some text =>
    match Decimal.readTrimmedBelow? lengthBound text with
    | none => .error (.lengthInvalid text)
    | some length => .ok length

end Request

end Replay
