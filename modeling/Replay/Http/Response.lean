import Replay.Http.Fields
import Replay.Http.Status
import Replay.Text.Decimal
import Replay.Text.Utf8

/-!
# Responses

A response with its body. What the server answers is always plain text that
declares its length, counted in octets.
-/

namespace Replay

/-- A response. -/
structure Response where
  status : Status
  fields : Fields
  body : Bytes
deriving DecidableEq

namespace Response

/-- A response without header fields and body. -/
def start (status : Status) : Response :=
  ⟨status, [], []⟩

/-- Append a header field. -/
def withField (response : Response) (name value : String) : Response :=
  { response with fields := response.fields ++ [(name, value)] }

/-- Replace the body. -/
def withBody (response : Response) (body : Bytes) : Response :=
  { response with body }

/-- A response of plain text. -/
def text (status : Status) (body : Bytes) : Response :=
  (((start status).withField Fields.contentType "text/plain").withField
    Fields.contentLength (Decimal.write body.length)).withBody body

/-- The answer to every refused request. -/
def invalidRequest : Response :=
  text .badRequest (Utf8.encode "invalid request")

/-- The answer to every method but POST. -/
def unsupportedMethod : Response :=
  text .notImplemented (Utf8.encode "unsupported method")

/-- The value of the first header field with a name. -/
def field? (response : Response) (name : String) : Option String :=
  response.fields.first? name

/-- The body as text, if it is one. -/
def bodyText? (response : Response) : Option String :=
  Utf8.decode? response.body

end Response

end Replay
