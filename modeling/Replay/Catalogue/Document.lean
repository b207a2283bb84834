import Replay.Json.Member
import Replay.Json.Scalar

/-!
# Configuration documents

A configuration document is an object whose keys are identifiers. Its entries
are objects with the members `status` and `body` and no others, or pairs of
these two in this order. The entries are read straight from the octets, so the
first thing wrong in the order of the document is what is reported, be it the
grammar or the shape. Whether a status can be replayed is not judged here.
-/

namespace Replay

open Json

/-- An entry as it is written. -/
structure Draft where
  status : Nat
  body : String
deriving DecidableEq

namespace Draft

/-- What a reader met in a number. -/
def foundNumber : Number → Found
  | .natural value => .integer value
  | .negative value => .integer (-value)
  | .floating value => .floating value

/-- What a reader met in a scalar, and whether the octet behind it was looked at. -/
def foundScalar : Scalar → Found × Mark
  | .null => (.null, .consumed)
  | .boolean value => (.boolean value, .consumed)
  | .number value => (foundNumber value, .beforeNext)
  | .text value => (.text value, .consumed)

/-- The fault of a value of another type, behind its first octet. A scalar is
consumed, and its own fault goes first; a list or an object is not entered. -/
def mismatch (ending : Ending) (wanted : Wanted) (first : UInt8) (rest : Bytes) : Fault :=
  match scalar? ending first rest with
  | some (.error fault) => fault
  | some (.ok taken) =>
    let (found, mark) := foundScalar taken.value
    ⟨.typeMismatch found wanted, mark, taken.rest.length⟩
  | none =>
    if first = 0x5B then ⟨.typeMismatch .sequence wanted, .beforeNext, rest.length + 1⟩
    else if first = 0x7B then ⟨.typeMismatch .map wanted, .beforeNext, rest.length + 1⟩
    else ⟨.valueExpected, .onNext, rest.length + 1⟩

/-- A status: an integer of sixteen bits. -/
def readStatus (ending : Ending) : Reader Nat := fun input =>
  match shape : skipSpace input with
  | [] => .error (ending.fault .endInValue)
  | first :: rest =>
    have fewer := length_lt_of_skipSpace shape
    match scalar? ending first rest with
    | some (.ok ⟨.number (.natural value), left, shorter⟩) =>
      if value < UInt16.size then .ok ⟨value, left, Nat.lt_of_lt_of_le shorter fewer⟩
      else .error ⟨.statusTooWide value, .beforeNext, left.length⟩
    | some (.ok ⟨.number (.negative value), left, _⟩) =>
      .error ⟨.statusTooWide (-value), .beforeNext, left.length⟩
    | _ => .error (mismatch ending .status first rest)

/-- A body: a text. -/
def readBody (ending : Ending) : Reader String := fun input =>
  match shape : skipSpace input with
  | [] => .error (ending.fault .endInValue)
  | first :: rest =>
    have fewer := length_lt_of_skipSpace shape
    match scalar? ending first rest with
    | some (.ok ⟨.text value, left, shorter⟩) =>
      .ok ⟨value, left, Nat.lt_of_lt_of_le shorter fewer⟩
    | _ => .error (mismatch ending .body first rest)

/-- A member of an entry. -/
inductive Member where
  | status (value : Nat)
  | body (value : String)

/-- The field that a member fills. -/
def Member.field : Member → Field
  | .status _ => .status
  | .body _ => .body

/-- The status among members. -/
def status? (members : List Member) : Option Nat :=
  members.findSome? fun member => match member with
    | .status value => some value
    | .body _ => none

/-- The body among members. -/
def body? (members : List Member) : Option String :=
  members.findSome? fun member => match member with
    | .body value => some value
    | .status _ => none

/-- The fault of a key that may not stand where it stands, found behind it. The
end of the object is taken first if it follows. -/
def keyFault (cause : Cause) (input : Bytes) : Fault :=
  match skipSpace input with
  | [] => ⟨cause, .beforeNext, 0⟩
  | octet :: rest =>
    if octet = Bracket.object.close then ⟨cause, .consumed, rest.length⟩
    else ⟨cause, .beforeNext, rest.length + 1⟩

/-- The value of a field, as a member. -/
def fieldValue (ending : Ending) (field : Field) : Reader Member := fun input =>
  match field with
  | .status => (readStatus ending input).map fun taken => taken.map Member.status
  | .body => (readBody ending input).map fun taken => taken.map Member.body

/-- The next member of an entry. -/
def member (ending : Ending) (before : List Member) : Reader Member
  | [] => .error (ending.fault .endInObject)
  | quote :: rest =>
    if quote = 0x22 then
      match text ending rest with
      | .error fault => .error fault
      | .ok key =>
        match Field.ofKey? key.value with
        | none => .error (keyFault (.fieldUnknown key.value) key.rest)
        | some field =>
          if before.any fun member => member.field = field then
            .error (keyFault (.fieldTwice field) key.rest)
          else
            match colon ending key.rest with
            | .error fault => .error fault
            | .ok colon =>
              match fieldValue ending field colon.rest with
              | .error fault => .error fault
              | .ok value =>
                .ok ⟨value.value, value.rest, by
                  have := key.shorter
                  have := colon.shorter
                  have := value.shorter
                  simp; omega⟩
    else .error ⟨.keyNotText, .onNext, rest.length + 1⟩

/-- An entry written as an object, behind its opening bracket. -/
def ofObject (ending : Ending) (input : Bytes) : Except Fault (Taken (input.length + 1) Draft) :=
  match items .object ending (member ending) [] input (length_le_succ input) with
  | .error fault => .error fault
  | .ok taken =>
    match status? taken.value, body? taken.value with
    | some status, some body => .ok ⟨⟨status, body⟩, taken.rest, taken.shorter⟩
    | none, _ => .error ⟨.fieldMissing .status, .consumed, taken.rest.length⟩
    | some _, none => .error ⟨.fieldMissing .body, .consumed, taken.rest.length⟩

/-- The start of the part of a pair that has `count` parts before it. -/
def pairPart (ending : Ending) (count : Nat) (input : Bytes) :
    Except Fault { start : Bytes // start.length ≤ input.length } :=
  match shape : skipSpace input with
  | [] => .error (ending.fault .endInList)
  | octet :: rest =>
    if octet = Bracket.list.close then .error ⟨.lengthMismatch count, .consumed, rest.length⟩
    else
      match Bracket.list.start ending (count == 0) octet rest with
      | .error fault => .error fault
      | .ok start =>
        .ok ⟨start.val, Nat.le_trans start.property (length_lt_of_skipSpace shape)⟩

/-- The closing bracket of a pair. Behind a comma the source is not asked to go
on: whatever follows is trailing. -/
def pairEnd (ending : Ending) (input : Bytes) : Except Fault (Taken input.length Unit) :=
  match shape : skipSpace input with
  | [] => .error (ending.fault .endInList)
  | octet :: rest =>
    if octet = Bracket.list.close then .ok ⟨(), rest, length_lt_of_skipSpace shape⟩
    else if octet = 0x2C then
      match skipSpace rest with
      | [] => .error ⟨.trailingCharacters, .onNext, 0⟩
      | next :: left =>
        if next = Bracket.list.close then .error ⟨.trailingComma, .onNext, left.length + 1⟩
        else .error ⟨.trailingCharacters, .onNext, left.length + 1⟩
    else .error ⟨.trailingCharacters, .onNext, rest.length + 1⟩

/-- An entry written as a pair, behind its opening bracket. -/
def ofPair (ending : Ending) (input : Bytes) : Except Fault (Taken (input.length + 1) Draft) :=
  match pairPart ending 0 input with
  | .error fault => .error fault
  | .ok statusStart =>
    match readStatus ending statusStart.val with
    | .error fault => .error fault
    | .ok status =>
      match pairPart ending 1 status.rest with
      | .error fault => .error fault
      | .ok bodyStart =>
        match readBody ending bodyStart.val with
        | .error fault => .error fault
        | .ok body =>
          match pairEnd ending body.rest with
          | .error fault => .error fault
          | .ok close =>
            .ok ⟨⟨status.value, body.value⟩, close.rest, by
              have := statusStart.property
              have := status.shorter
              have := bodyStart.property
              have := body.shorter
              have := close.shorter
              omega⟩

/-- An entry. -/
def read (ending : Ending) : Reader Draft := fun input =>
  match shape : skipSpace input with
  | [] => .error (ending.fault .endInValue)
  | first :: rest =>
    have fewer := length_lt_of_skipSpace shape
    if first = 0x7B then (ofObject ending rest).map fun taken => taken.weaken fewer
    else if first = 0x5B then (ofPair ending rest).map fun taken => taken.weaken fewer
    else .error (mismatch ending .entry first rest)

end Draft

/-- The entries of a document in their order, each under its identifier. -/
abbrev Drafts := List (String × Draft)

namespace Drafts

/-- The entries of a document, or the first fault. A source that fails before
the object begins, or behind it, fails outside the document. -/
def scan (ending : Ending) (document : Bytes) : Except Fault Drafts :=
  match skipSpace document, ending with
  | [], .finished => .error ⟨.endInValue, .consumed, 0⟩
  | [], .failed text => .error ⟨.sourceFailed text, .outside, 0⟩
  | first :: rest, ending =>
    if first = 0x7B then
      match items .object ending (fun _ => member ending (Draft.read ending)) [] rest
        (length_le_succ rest) with
      | .error fault => .error fault
      | .ok taken =>
        match atEnd ending taken.rest with
        | .error fault => .error fault
        | .ok () => .ok taken.value
    else .error (Draft.mismatch ending .map first rest)

/-- The entries of a document that is at hand as a whole. -/
def parse (document : Bytes) : Except Error Drafts :=
  (scan .finished document).mapError fun fault => fault.error .whole document

/-- The entries of the octets that a source delivered before it ended, read in a row,
with the places that they have in a stream. -/
def parseStream (delivered : Bytes) (ending : Ending) : Except Error Drafts :=
  (scan ending delivered).mapError fun fault => fault.error .stream delivered

end Drafts

end Replay
