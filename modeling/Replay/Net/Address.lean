/-!
# Addresses

Internet addresses of both versions, their text and how it is read. The text of a
long address leaves out the longest run of zero groups, the first of several
equally long ones, and ends with the short address in it if it carries one.
-/

namespace Replay

/-- An internet address. -/
inductive Address where
  /-- Four octets. -/
  | short (octets : Vector UInt8 4)
  /-- Eight groups of sixteen bits. -/
  | long (groups : Vector UInt16 8)
deriving DecidableEq

namespace Address

/-- The address of all interfaces. -/
def unspecified : Address :=
  .short #v[0, 0, 0, 0]

/-- The text of four octets. -/
def shortText (octets : List UInt8) : String :=
  ".".intercalate (octets.map fun octet => toString octet.toNat)

/-- The text of groups, in small hexadecimal digits. -/
def groupsText (groups : List UInt16) : String :=
  ":".intercalate (groups.map fun group => String.ofList (Nat.toDigits 16 group.toNat))

/-- The number of zero groups at the front. -/
def leadingZeros (groups : List UInt16) : Nat :=
  (groups.takeWhile fun group => group == 0).length

/-- Where the longest run of zero groups begins, and how long it is. -/
def longestRun (groups : List UInt16) : Nat × Nat :=
  (List.range groups.length).foldl
    (fun longest start =>
      let length := leadingZeros (groups.drop start)
      if length > longest.2 then (start, length) else longest)
    (0, 0)

/-- The octets of a group. -/
def octetsOf (group : UInt16) : List UInt8 :=
  [UInt8.ofNat (group.toNat / 256), UInt8.ofNat (group.toNat % 256)]

/-- The short address that groups carry behind five zero groups and one full one. -/
def carried? (groups : List UInt16) : Option (List UInt8) :=
  match groups with
  | [0, 0, 0, 0, 0, 0xFFFF, high, low] => some (octetsOf high ++ octetsOf low)
  | _ => none

/-- The text of a long address. -/
def longText (groups : List UInt16) : String :=
  match carried? groups with
  | some octets => "::ffff:" ++ shortText octets
  | none =>
    let (start, length) := longestRun groups
    if length < 2 then groupsText groups
    else groupsText (groups.take start) ++ "::" ++ groupsText (groups.drop (start + length))

/-- The text of an address. -/
def text : Address → String
  | .short octets => shortText octets.toList
  | .long groups => longText groups.toList

/-- The text of an address with a port. A long address stands in brackets. -/
def withPort (address : Address) (port : Nat) : String :=
  match address with
  | .short _ => address.text ++ ":" ++ toString port
  | .long _ => "[" ++ address.text ++ "]:" ++ toString port

/-! ## Reading -/

/-- A decimal number of one octet, without needless zeros, and what follows it. -/
def readOctet (input : List Char) : Option (UInt8 × List Char) :=
  let digits := input.takeWhile Char.isDigit
  let value := digits.foldl (fun total digit => total * 10 + (digit.toNat - '0'.toNat)) 0
  if digits.isEmpty || digits.length > 3 || value > 255
      || (digits.head? == some '0' && digits.length > 1) then none
  else some (UInt8.ofNat value, input.dropWhile Char.isDigit)

/-- What follows a character that must come first. -/
def expect (character : Char) : List Char → Option (List Char)
  | first :: rest => if first = character then some rest else none
  | [] => none

/-- Four octets with points between them, and what follows them. -/
def readShort (input : List Char) : Option (Vector UInt8 4 × List Char) := do
  let (first, rest) ← readOctet input
  let (second, rest) ← readOctet (← expect '.' rest)
  let (third, rest) ← readOctet (← expect '.' rest)
  let (fourth, rest) ← readOctet (← expect '.' rest)
  return (#v[first, second, third, fourth], rest)

/-- A hexadecimal digit. -/
def isHexDigit (character : Char) : Bool :=
  character.isDigit || ('a' ≤ character && character ≤ 'f')
    || ('A' ≤ character && character ≤ 'F')

/-- The value of a hexadecimal digit. -/
def hexValue (digit : Char) : Nat :=
  if digit.isDigit then digit.toNat - '0'.toNat else digit.toNat % 32 + 9

/-- A group of at most four digits, and what follows it. -/
def readGroup (input : List Char) : Option (UInt16 × List Char) :=
  let digits := input.takeWhile isHexDigit
  if digits.isEmpty || digits.length > 4 then none
  else
    some (UInt16.ofNat (digits.foldl (fun total digit => total * 16 + hexValue digit) 0),
      input.dropWhile isHexDigit)

/-- The groups of a short address. -/
def groupsOf (octets : Vector UInt8 4) : List UInt16 :=
  [UInt16.ofNat (octets[0].toNat * 256 + octets[1].toNat),
    UInt16.ofNat (octets[2].toNat * 256 + octets[3].toNat)]

/-- At most so many groups with colons between them, whether a short address ends
them, and what follows. A short address takes the room of two groups. -/
def readGroups (isFirst : Bool) : (room : Nat) → List Char → List UInt16 × Bool × List Char
  | 0, input => ([], false, input)
  | room + 1, input =>
    match if isFirst then some input else expect ':' input with
    | none => ([], false, input)
    | some start =>
      match if 0 < room then readShort start else none with
      | some (octets, rest) => (groupsOf octets, true, rest)
      | none =>
        match readGroup start with
        | none => ([], false, input)
        | some (group, rest) =>
          let (groups, endsShort, rest) := readGroups false room rest
          (group :: groups, endsShort, rest)

/-- The address of eight groups. -/
def ofGroups? (groups : List UInt16) : Option Address :=
  if eight : groups.length = 8 then
    some (.long ⟨groups.toArray, by rw [List.size_toArray]; exact eight⟩)
  else none

/-- A long address, and what follows it. -/
def readLong (input : List Char) : Option (Address × List Char) := do
  let (front, endsShort, rest) := readGroups true 8 input
  if front.length = 8 then return (← ofGroups? front, rest)
  if endsShort then none
  let rest ← expect ':' (← expect ':' rest)
  let (back, _, rest) := readGroups true (7 - front.length) rest
  let zeros := List.replicate (8 - front.length - back.length) 0
  return (← ofGroups? (front ++ zeros ++ back), rest)

/-- The address that a text denotes. -/
def ofText? (text : String) : Option Address :=
  match readShort text.toList with
  | some (octets, []) => some (.short octets)
  | _ =>
    match readLong text.toList with
    | some (address, []) => some address
    | _ => none

end Address

end Replay
