import Replay.Wire.Octet

/-!
# Field maps

Header fields grouped by name: names in small letters in the order of their
first appearance, under each its values in their order. Names are tokens, values
hold no control octet, and the number of names is bounded.
-/

namespace Replay.Wire

/-- Why a field cannot be added. -/
inductive FieldRefusal where
  | name
  | value
  | room
deriving DecidableEq

/-- The wording of a refusal. -/
def FieldRefusal.message : FieldRefusal → String
  | .name => "invalid HTTP header name"
  | .value => "failed to parse header value"
  | .room => "max size reached"

/-- Field values grouped by name. -/
structure FieldMap where
  groups : List (String × List Bytes)
deriving DecidableEq

namespace FieldMap

/-- No fields. -/
def empty : FieldMap := ⟨[]⟩

/-- Names are at most this long. -/
def longestName : Nat := 65535

/-- Nothing is added to a map with so many names. -/
def fullSize : Nat := 24576

/-- The name of a field in small letters, if it is a name. -/
def name? (octets : Bytes) : Option String :=
  if !octets.isEmpty && octets.length ≤ longestName && octets.all isTokenOctet then
    some (asciiText (octets.map smallOctet))
  else none

/-- Append a value to its group, which is the last one if the name is new. -/
def appendTo (name : String) (value : Bytes) :
    List (String × List Bytes) → List (String × List Bytes)
  | [] => [(name, [value])]
  | group :: groups =>
    if group.1 = name then (group.1, group.2 ++ [value]) :: groups
    else group :: appendTo name value groups

/-- Append a value under a name in small letters, if there is room. -/
def append? (fields : FieldMap) (name : String) (value : Bytes) : Option FieldMap :=
  if fields.groups.length < fullSize then some ⟨appendTo name value fields.groups⟩ else none

/-- Add a field. The name is judged before the value, the value before the room. -/
def add (fields : FieldMap) (field : Bytes × Bytes) : Except FieldRefusal FieldMap :=
  match name? field.1 with
  | none => .error .name
  | some name =>
    if field.2.all isValueOctet then
      match fields.append? name field.2 with
      | none => .error .room
      | some fields => .ok fields
    else .error .value

/-- The map of fields, or why the first field that cannot be added is refused. -/
def ofFields (fields : List (Bytes × Bytes)) : Except FieldRefusal FieldMap :=
  fields.foldlM add empty

/-- The fields, grouped. -/
def toList (fields : FieldMap) : List (String × Bytes) :=
  fields.groups.flatMap fun group => group.2.map fun value => (group.1, value)

/-- The values under a name in small letters. -/
def values (fields : FieldMap) (name : String) : List Bytes :=
  (fields.groups.lookup name).getD []

/-- The first value under a name in small letters. -/
def first? (fields : FieldMap) (name : String) : Option Bytes :=
  (fields.values name).head?

end FieldMap

end Replay.Wire
