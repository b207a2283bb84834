import Replay.Wire.Chunked
import Replay.Wire.FieldMap

/-!
# Framing

Where the body of a request ends, as its header fields decide. A request that is
coded in chunks ends with its last chunk, whatever length it also declares; else
it is as long as it declares; else it has no body. Contradictory or impossible
declarations are refused. The rules are those of the HTTP/1 server of hyper 1.12, stated
from knowledge of that library.
-/

namespace Replay.Wire

/-- The versions of the protocol. -/
inductive Version where
  | oneZero
  | oneOne
deriving DecidableEq

/-- Where a body ends. -/
inductive Framing where
  | empty
  | sized (length : Nat)
  | chunked
deriving DecidableEq

/-- Why the opening of a request is refused. -/
inductive OpeningRefusal where
  | malformed
  | fieldsTooLarge
  | targetTooLong
deriving DecidableEq

/-- What the header fields read so far say. -/
structure Survey where
  fields : FieldMap
  declared : Option Nat
  /-- Whether the last transfer coding is the chunked one, if there is a coding. -/
  coded : Option Bool
  keepsOpen : Bool

namespace Survey

/-- Before the first field: later versions keep connections open by default. -/
def start (version : Version) : Survey :=
  ⟨.empty, none, none, version = .oneOne⟩

/-- The parts of a value between commas, each without the space around it. -/
def listed (value : Bytes) : List Bytes :=
  (value.splitOn 0x2C).map trimGaps

/-- Whether octets spell a word, ASCII case aside. -/
def spells (octets : Bytes) (word : String) : Bool :=
  octets.map smallOctet == Utf8.encode word

/-- Whether a word is listed in a value that reads as text. -/
def lists (value : Bytes) (word : String) : Bool :=
  value.all isVisibleOctet && (listed value).any (spells · word)

/-- Whether chunked is the last coding in a value that reads as text. -/
def endsChunked (value : Bytes) : Bool :=
  value.all isVisibleOctet && ((listed value).getLast?.map (spells · "chunked")).getD false

/-- The number that the digits of a declared length denote; nothing but digits is
allowed. -/
def length? (value : Bytes) : Option Nat :=
  let number := value.foldl (fun total octet => total * 10 + (octet.toNat - 0x30)) 0
  if !value.isEmpty && value.all isDigitOctet && number < UInt64.size then some number else none

/-- Bodies are at most this long; the largest numbers have other uses. -/
def longestBody : Nat := UInt64.size - 3

/-- Keep a field under a name in small letters. -/
def keep (survey : Survey) (name : String) (value : Bytes) : Except OpeningRefusal Survey :=
  match survey.fields.append? name value with
  | none => .error .fieldsTooLarge
  | some fields => .ok { survey with fields }

/-- See a transfer coding. The older version knows none. -/
def seeCoding (survey : Survey) (version : Version) (name : String) (value : Bytes) :
    Except OpeningRefusal Survey :=
  if version = .oneZero then .error .malformed
  else { survey with coded := some (endsChunked value) }.keep name value

/-- See a declared length. Behind a coding it is passed over; one that repeats an
earlier one is not kept; a different one is refused. -/
def seeLength (survey : Survey) (name : String) (value : Bytes) :
    Except OpeningRefusal Survey :=
  if survey.coded.isSome then .ok survey
  else
    match length? value, survey.declared with
    | none, _ => .error .malformed
    | some length, some declared => if length = declared then .ok survey else .error .malformed
    | some length, none =>
      if length ≤ longestBody then { survey with declared := some length }.keep name value
      else .error .fieldsTooLarge

/-- See what a client wants of the connection. An open one may be closed, a closed
one kept open. -/
def seeConnection (survey : Survey) (name : String) (value : Bytes) :
    Except OpeningRefusal Survey :=
  let keepsOpen :=
    if survey.keepsOpen then !lists value "close" else lists value "keep-alive"
  { survey with keepsOpen }.keep name value

/-- See the next field. -/
def see (version : Version) (survey : Survey) (field : Bytes × Bytes) :
    Except OpeningRefusal Survey :=
  match FieldMap.name? field.1 with
  | none => .error .fieldsTooLarge
  | some name =>
    if name = "transfer-encoding" then survey.seeCoding version name field.2
    else if name = "content-length" then survey.seeLength name field.2
    else if name = "connection" then survey.seeConnection name field.2
    else survey.keep name field.2

/-- Where the body ends after all fields. A coding that does not end with chunks
leaves that open and is refused. -/
def framing (survey : Survey) : Except OpeningRefusal Framing :=
  match survey.coded, survey.declared with
  | some true, _ => .ok .chunked
  | some false, _ => .error .malformed
  | none, some length => .ok (.sized length)
  | none, none => .ok .empty

end Survey

/-- What arrived of a body. One of declared length is a single part, in whichever pieces it
arrived: parts are only joined, and measured as a whole. -/
def Framing.arrival (framing : Framing) (input : Bytes) : Arrival :=
  match framing with
  | .empty => ⟨[], .ok input⟩
  | .sized length =>
    let part := input.take length
    ⟨if part.isEmpty then [] else [part],
      if part.length = length then .ok (input.drop length) else .error .awaited⟩
  | .chunked => Chunked.read input

end Replay.Wire
