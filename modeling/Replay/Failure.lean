import Replay.Json.Error

/-!
# Failures

Everything that can go wrong, as causes. Some failures concern one request and
are answered there; the others keep the server from starting. Each has a message
of one line, the form in which diagnostics show it, and sometimes a failure
beneath it.
-/

namespace Replay

/-- The reasons for which an operation fails. -/
inductive Failure where
  /-- The configuration document is refused. -/
  | document (error : Json.Error)
  /-- An entry of the configuration has a status that cannot be replayed. -/
  | statusRefused (identifier : String) (status : Nat)
  /-- The listening port is not a number of sixteen bits. -/
  | portInvalid (text : String)
  /-- The request does not declare the length of its body. -/
  | lengthMissing
  /-- The declared length is not a number of sixty-four bits. -/
  | lengthInvalid (text : String)
  /-- The body is not as long as declared. -/
  | lengthMismatch (declared actual : Nat)
  /-- The body is longer than allowed. -/
  | bodyTooLarge (size limit : Nat)
  /-- The body is not a JSON document. -/
  | bodyMalformed (error : Json.Error)
  /-- The body names no identifier. -/
  | identifierMissing
  /-- The identifier is not configured. -/
  | identifierUnknown (identifier : String)
  /-- The operating system reports an error. -/
  | system (text : String)
  /-- The connection reports an error. -/
  | transport (text : String)

namespace Failure

/-- The message of a failure. -/
def message : Failure → String
  | .document error => "Invalid configuration: " ++ error.message
  | .statusRefused identifier status =>
    "Invalid status " ++ toString status ++ " for identifier " ++ Text.quoted identifier
  | .portInvalid text => "Invalid port " ++ Text.quoted text
  | .lengthMissing => "Missing Content-Length header"
  | .lengthInvalid text => "Invalid Content-Length header: " ++ Text.quoted text
  | .lengthMismatch declared actual =>
    "Body length " ++ toString actual ++ " does not match Content-Length " ++ toString declared
  | .bodyTooLarge size limit =>
    "Body too large: " ++ toString size ++ " bytes exceeds limit of " ++ toString limit
      ++ " bytes"
  | .bodyMalformed error => "Malformed request body: " ++ error.message
  | .identifierMissing => "Request body has no string id field"
  | .identifierUnknown identifier => "Unknown identifier " ++ Text.quoted identifier
  | .system text => "IO error: " ++ text
  | .transport text => "HTTP error: " ++ text

/-- Whether a failure concerns one request rather than the server. -/
def concernsRequest : Failure → Bool
  | .lengthMissing | .lengthInvalid _ | .lengthMismatch _ _ | .bodyTooLarge _ _
  | .bodyMalformed _ | .identifierMissing | .identifierUnknown _ | .transport _ => true
  | .document _ | .statusRefused _ _ | .portInvalid _ | .system _ => false

/-- The message of the failure beneath, if there is one. -/
def source? : Failure → Option String
  | .document error | .bodyMalformed error => some error.message
  | .system text => some text
  | _ => none

/-- The word by which diagnostics call a failure. -/
def label : Failure → String
  | .document _ => "Config"
  | .statusRefused _ _ => "InvalidStatus"
  | .portInvalid _ => "InvalidPort"
  | .lengthMissing => "MissingContentLength"
  | .lengthInvalid _ => "InvalidContentLength"
  | .lengthMismatch _ _ => "BodyLengthMismatch"
  | .bodyTooLarge _ _ => "BodyTooLarge"
  | .bodyMalformed _ => "MalformedBody"
  | .identifierMissing => "MissingId"
  | .identifierUnknown _ => "UnknownId"
  | .system _ => "Io"
  | .transport _ => "Hyper"

/-- Contents between round brackets. -/
def inBrackets (contents : String) : String :=
  "(" ++ contents ++ ")"

/-- Named contents between braces. -/
def inBraces (contents : List (String × String)) : String :=
  " \x7b " ++ ", ".intercalate (contents.map fun item => item.1 ++ ": " ++ item.2) ++ " \x7d"

/-- A refusal of a document as diagnostics show it; without a place it shows the
place before all lines. -/
def inspectError (error : Json.Error) : String :=
  let position := error.position.getD ⟨0, 0⟩
  "Error" ++ inBrackets (Text.quoted error.cause.message ++ ", line: " ++ toString position.line
    ++ ", column: " ++ toString position.column)

/-- The contents of a failure as diagnostics show them. -/
def inspectContents : Failure → String
  | .document error | .bodyMalformed error => inBrackets (inspectError error)
  | .statusRefused identifier status =>
    inBraces [("id", Text.quoted identifier), ("status", toString status)]
  | .portInvalid text | .lengthInvalid text | .identifierUnknown text | .transport text =>
    inBrackets (Text.quoted text)
  | .lengthMismatch declared actual =>
    inBraces [("declared", toString declared), ("actual", toString actual)]
  | .bodyTooLarge size limit => inBraces [("size", toString size), ("limit", toString limit)]
  | .system text =>
    inBrackets ("Custom" ++ inBraces [("kind", "Other"), ("error", Text.quoted text)])
  | .lengthMissing | .identifierMissing => ""

/-- The failure as diagnostics show it. -/
def inspect (failure : Failure) : String :=
  failure.label ++ failure.inspectContents

end Failure

end Replay
