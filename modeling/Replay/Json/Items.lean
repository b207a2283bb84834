import Replay.Json.Source

/-!
# Items between brackets

Items separated by commas up to a closing bracket, as they stand in lists and
objects. The reader of an item is told the items before it.
-/

namespace Replay.Json

/-- A kind of bracket: the octet that closes it, and the causes to report where
the document ends inside it and where neither a comma nor its end follows an item. -/
structure Bracket where
  close : UInt8
  ended : Cause
  separatorExpected : Cause

/-- The brackets of a list. -/
def Bracket.list : Bracket :=
  ⟨0x5D, .endInList, .listCommaOrEndExpected⟩

/-- The brackets of an object. -/
def Bracket.object : Bracket :=
  ⟨0x7D, .endInObject, .objectCommaOrEndExpected⟩

/-- Where the next item begins, given the first octet that is not space: there if
it is the first item, else behind a comma and space. -/
def Bracket.start (bracket : Bracket) (ending : Ending) (isFirst : Bool) (octet : UInt8)
    (rest : Bytes) : Except Fault { start : Bytes // start.length ≤ rest.length + 1 } :=
  if isFirst then .ok ⟨octet :: rest, by simp⟩
  else if octet = 0x2C then
    match shape : skipSpace rest with
    | [] => .error (ending.fault .endInValue)
    | next :: left =>
      if next = bracket.close then .error ⟨.trailingComma, .onNext, left.length + 1⟩
      else .ok ⟨next :: left, by have := length_lt_of_skipSpace shape; simp; omega⟩
  else .error ⟨bracket.separatorExpected, .onNext, rest.length + 1⟩

/-- The items up to the closing bracket, behind those already `taken`, the last
one first. -/
def items {α : Type} (bracket : Bracket) (ending : Ending) (item : List α → Reader α)
    {bound : Nat} (taken : List α) (input : Bytes) (fits : input.length ≤ bound) :
    Except Fault (Taken bound (List α)) :=
  match shape : skipSpace input with
  | [] => .error (ending.fault bracket.ended)
  | octet :: rest =>
    have fewer := length_lt_of_skipSpace shape
    if octet = bracket.close then .ok ⟨taken.reverse, rest, Nat.lt_of_lt_of_le fewer fits⟩
    else
      match bracket.start ending taken.isEmpty octet rest with
      | .error fault => .error fault
      | .ok start =>
        match item taken start.val with
        | .error fault => .error fault
        | .ok next =>
          have := next.shorter
          have := start.property
          items bracket ending item (next.value :: taken) next.rest (by omega)
termination_by input.length
decreasing_by omega

/-- The colon between a key and its value; what is behind it. -/
def colon (ending : Ending) (input : Bytes) :
    Except Fault (Taken input.length Unit) :=
  match shape : skipSpace input with
  | [] => .error (ending.fault .endInObject)
  | octet :: rest =>
    if octet = 0x3A then .ok ⟨(), rest, length_lt_of_skipSpace shape⟩
    else .error ⟨.colonExpected, .onNext, rest.length + 1⟩

/-- The trailing part of a document: nothing but space. -/
def atEnd (ending : Ending) (input : Bytes) : Except Fault Unit :=
  match skipSpace input, ending with
  | [], .finished => .ok ()
  | [], .failed text => .error ⟨.sourceFailed text, .outside, 0⟩
  | _ :: rest, _ => .error ⟨.trailingCharacters, .onNext, rest.length + 1⟩

end Replay.Json
