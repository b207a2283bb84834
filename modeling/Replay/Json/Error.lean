import Replay.Text.Quoted
import Replay.Text.Shortest

/-!
# Why a document is refused

The causes for which a JSON document is refused, their wording, and the place
that goes with them. A cause is either a violation of the grammar, a mismatch
between the document and the shape that is read from it, or a failure of the
source the octets come from.
-/

namespace Replay.Json

/-- What a reader met where it wanted something else. -/
inductive Found where
  | null
  | boolean (value : Bool)
  | integer (value : Int)
  | floating (value : Float)
  | text (value : String)
  | sequence
  | map

/-- What a reader wanted. -/
inductive Wanted where
  /-- The object of the whole document. -/
  | map
  /-- The object, or the pair, of one entry. -/
  | entry
  /-- A number of sixteen bits. -/
  | status
  /-- A text. -/
  | body

/-- The two members of an entry. -/
inductive Field where
  | status
  | body
deriving DecidableEq

/-- The reasons for refusing a document. -/
inductive Cause where
  | endInValue
  | endInString
  | endInList
  | endInObject
  | colonExpected
  | listCommaOrEndExpected
  | objectCommaOrEndExpected
  | wordExpected
  | valueExpected
  | escapeInvalid
  | numberInvalid
  | numberOutOfRange
  | codePointInvalid
  | controlCharacter
  | keyNotText
  | surrogateAlone
  | surrogateUnfinished
  | trailingComma
  | trailingCharacters
  | nestedTooDeep
  | typeMismatch (found : Found) (wanted : Wanted)
  | statusTooWide (value : Int)
  | lengthMismatch (length : Nat)
  | fieldUnknown (name : String)
  | fieldTwice (field : Field)
  | fieldMissing (field : Field)
  /-- The source reports an error. -/
  | sourceFailed (text : String)
deriving Inhabited

/-- The wording of what was met. -/
def Found.message : Found → String
  | .null => "null"
  | .boolean value => "boolean \x60" ++ toString value ++ "\x60"
  | .integer value => "integer \x60" ++ toString value ++ "\x60"
  | .floating value => "floating point \x60" ++ Shortest.render value ++ "\x60"
  | .text value => "string " ++ Text.quoted value
  | .sequence => "sequence"
  | .map => "map"

/-- The wording of what was wanted. -/
def Wanted.message : Wanted → String
  | .map => "a map"
  | .entry => "struct RawEntry"
  | .status => "u16"
  | .body => "a string"

/-- The key under which a document holds a field. -/
def Field.key : Field → String
  | .status => "status"
  | .body => "body"

/-- The field that a key names. -/
def Field.ofKey? (key : String) : Option Field :=
  if key = "status" then some .status else if key = "body" then some .body else none

/-- A word between backquotes. -/
private def marked (word : String) : String :=
  "\x60" ++ word ++ "\x60"

/-- The wording of a cause, without its place. -/
def Cause.message : Cause → String
  | .endInValue => "EOF while parsing a value"
  | .endInString => "EOF while parsing a string"
  | .endInList => "EOF while parsing a list"
  | .endInObject => "EOF while parsing an object"
  | .colonExpected => "expected \x60:\x60"
  | .listCommaOrEndExpected => "expected \x60,\x60 or \x60]\x60"
  | .objectCommaOrEndExpected => "expected \x60,\x60 or \x60\x7d\x60"
  | .wordExpected => "expected ident"
  | .valueExpected => "expected value"
  | .escapeInvalid => "invalid escape"
  | .numberInvalid => "invalid number"
  | .numberOutOfRange => "number out of range"
  | .codePointInvalid => "invalid unicode code point"
  | .controlCharacter => "control character (\\u0000-\\u001F) found while parsing a string"
  | .keyNotText => "key must be a string"
  | .surrogateAlone => "lone leading surrogate in hex escape"
  | .surrogateUnfinished => "unexpected end of hex escape"
  | .trailingComma => "trailing comma"
  | .trailingCharacters => "trailing characters"
  | .nestedTooDeep => "recursion limit exceeded"
  | .typeMismatch found wanted =>
    "invalid type: " ++ found.message ++ ", expected " ++ wanted.message
  | .statusTooWide value =>
    "invalid value: " ++ (Found.integer value).message ++ ", expected u16"
  | .lengthMismatch length =>
    "invalid length " ++ toString length ++ ", expected struct RawEntry with 2 elements"
  | .fieldUnknown name =>
    "unknown field " ++ marked name ++ ", expected " ++ marked Field.status.key ++ " or "
      ++ marked Field.body.key
  | .fieldTwice field => "duplicate field " ++ marked field.key
  | .fieldMissing field => "missing field " ++ marked field.key
  | .sourceFailed text => text

/-- A place in a document: lines count from one, columns are the octets before
the place on its line. -/
structure Position where
  line : Nat
  column : Nat
deriving DecidableEq, Repr

/-- Walk over octets from a place. -/
def Position.advance : Position → List UInt8 → Position
  | position, [] => position
  | position, octet :: rest =>
    if octet = 0x0A then Position.advance ⟨position.line + 1, 0⟩ rest
    else Position.advance ⟨position.line, position.column + 1⟩ rest

/-- The place after the given octets of a document. -/
def Position.after (octets : List UInt8) : Position :=
  Position.advance ⟨1, 0⟩ octets

/-- A refusal: its cause, and its place unless the document was never entered. -/
structure Error where
  cause : Cause
  position : Option Position

/-- The wording of a refusal: the cause, and the place if there is one. -/
def Error.message (error : Error) : String :=
  match error.position with
  | none => error.cause.message
  | some position =>
    error.cause.message ++ " at line " ++ toString position.line ++ " column "
      ++ toString position.column

end Replay.Json
