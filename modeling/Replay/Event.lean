import Replay.Failure

/-!
# Events

What the server reports about its requests while it works. An event has a
severity, a message and details by name.
-/

namespace Replay

/-- How serious an event is. -/
inductive Severity where
  | debug
  | error
deriving DecidableEq

/-- The word for a severity. -/
def Severity.word : Severity → String
  | .debug => "DEBUG"
  | .error => "ERROR"

/-- What happened. -/
inductive Event where
  /-- A request came with a method other than POST. -/
  | unsupportedMethod (method path : String)
  /-- A request selects no stub. -/
  | rejected (path : String) (failure : Failure)
  /-- The body of a request could not be read. -/
  | unreadable (failure : Failure)
  /-- A response has a header field that cannot be sent, for the given reason. -/
  | unsendable (reason : String)

namespace Event

/-- The severity of an event. -/
def severity : Event → Severity
  | .unsupportedMethod _ _ | .rejected _ _ | .unreadable _ => .debug
  | .unsendable _ => .error

/-- The message of an event. -/
def message : Event → String
  | .unsupportedMethod _ _ => "unsupported method"
  | .rejected _ _ => "rejecting request"
  | .unreadable _ => "could not read request"
  | .unsendable _ => "could not build response"

/-- The details of an event, each under its name. -/
def details : Event → List (String × String)
  | .unsupportedMethod method path => [("method", method), ("path", path)]
  | .rejected path failure => [("path", path), ("error", failure.message)]
  | .unreadable failure => [("error", failure.message)]
  | .unsendable reason => [("error", reason)]

end Event

end Replay
