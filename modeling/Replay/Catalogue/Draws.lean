import Replay.Catalogue.Delivery
import Replay.Catalogue.Document
import Replay.Json.Draws

/-!
# Configuration documents that arrive

The entries of a configuration document as they are drawn from a feed, for a
document that is read while its source delivers it.
-/

namespace Replay

open Json Json.Draw

namespace Draft

variable {α : Type}

/-- The scalar that starts with the octet ahead, where something else is wanted if
there is none. A list or an object is not entered. -/
def drawScalar (wanted : Wanted) (first : UInt8) : Draw Scalar :=
  match Draw.scalar? first with
  | some scalar => scalar
  | none =>
    if first = 0x5B then refuse (.typeMismatch .sequence wanted)
    else if first = 0x7B then refuse (.typeMismatch .map wanted)
    else refuse .valueExpected

/-- Refuse a scalar of another type. -/
def refuseScalar (wanted : Wanted) (scalar : Scalar) : Draw α :=
  refuse (.typeMismatch (foundScalar scalar).1 wanted)

/-- A status: an integer of sixteen bits. -/
def drawStatus : Draw Nat := do
  let first ← gap .endInValue
  match ← drawScalar .status first with
  | .number (.natural value) =>
    if value < UInt16.size then pure value else refuse (.statusTooWide value)
  | .number (.negative value) => refuse (.statusTooWide (-value))
  | other => refuseScalar .status other

/-- A body: a text. -/
def drawBody : Draw String := do
  let first ← gap .endInValue
  match ← drawScalar .body first with
  | .text value => pure value
  | other => refuseScalar .body other

/-- Refuse a key that may not stand where it stands. The octet behind it is looked at
first, be the source failing or not. -/
def refuseKey (cause : Cause) : Draw α := do
  let _ ← span isSpace
  refuse cause

/-- The value of a field, as a member. -/
def drawField : Field → Draw Member
  | .status => do
    let value ← drawStatus
    return .status value
  | .body => do
    let value ← drawBody
    return .body value

/-- The next member of an entry. -/
def drawMember (before : List Member) : Draw Member := do
  let quote ← ahead .endInObject
  if quote = 0x22 then
    consume
    let key ← text
    match Field.ofKey? key with
    | none => refuseKey (.fieldUnknown key)
    | some field =>
      if before.any fun member => member.field = field then refuseKey (.fieldTwice field)
      else
        colon
        drawField field
  else refuse .keyNotText

/-- An entry written as an object, behind its opening bracket. -/
def drawObject : Draw Draft := do
  let members ← Draw.items .object drawMember
  match status? members, body? members with
  | some status, some body => pure ⟨status, body⟩
  | none, _ => refuse (.fieldMissing .status)
  | some _, none => refuse (.fieldMissing .body)

/-- The start of the part of a pair that has `count` parts before it. -/
def drawPairPart (count : Nat) : Draw Unit := do
  let octet ← gap .endInList
  if octet = Bracket.list.close then
    consume
    refuse (.lengthMismatch count)
  else separator .list (count == 0) octet

/-- The closing bracket of a pair. Behind a comma the source may fail unnoticed. -/
def drawPairEnd : Draw Unit := do
  let octet ← gap .endInList
  if octet = Bracket.list.close then consume
  else if octet = 0x2C then
    consume
    let _ ← span isSpace
    let following ← peek
    if following = some Bracket.list.close then refuse .trailingComma
    else refuse .trailingCharacters
  else refuse .trailingCharacters

/-- An entry written as a pair, behind its opening bracket. -/
def drawPair : Draw Draft := do
  drawPairPart 0
  let status ← drawStatus
  drawPairPart 1
  let body ← drawBody
  drawPairEnd
  return ⟨status, body⟩

/-- An entry. -/
def draw : Draw Draft := do
  let first ← gap .endInValue
  if first = 0x7B then
    consume
    drawObject
  else if first = 0x5B then
    consume
    drawPair
  else
    let other ← drawScalar .entry first
    refuseScalar .entry other

end Draft

namespace Drafts

/-- The entries of a document. -/
def draw : Draw Drafts := do
  match ← outerGap with
  | none => refuse .endInValue
  | some first =>
    if first = 0x7B then
      consume
      let drafts ← Draw.items .object fun _ => Draw.member Draft.draw
      atEnd
      return drafts
    else
      let other ← Draft.drawScalar .map first
      Draft.refuseScalar .map other

/-- The entries of a document while it is delivered. -/
def receive (delivery : Delivery) : Except Error Drafts :=
  (draw.run (Feed.start delivery.parts delivery.ending)).map Drawn.value

end Drafts

end Replay
