import Replay.Json.Member
import Replay.Json.Scalar

/-!
# Values

Any JSON value, read whole from octets at hand. Lists and objects may be nested
127 deep. An object keeps its members in the order of the document; of several
with one name the last one counts.
-/

namespace Replay.Json

/-- A JSON value. -/
inductive Value where
  | scalar (value : Scalar)
  | list (elements : List Value)
  | object (members : List (String × Value))

namespace Value

/-- The value of the last member with a name. -/
def member? (name : String) (members : List (String × Value)) : Option Value :=
  (members.reverse.find? fun member => member.1 = name).map Prod.snd

/-- A value whose parts `nested` takes, if any parts may be nested here. -/
def readWith (nested : Option (Reader Value)) : Reader Value := fun input =>
  match shape : skipSpace input with
  | [] => .error (Ending.finished.fault .endInValue)
  | first :: rest =>
    have fewer := length_lt_of_skipSpace shape
    match scalar? .finished first rest with
    | some read => read.map fun taken => (taken.map Value.scalar).weaken fewer
    | none =>
      if first = 0x5B || first = 0x7B then
        match nested with
        | none => .error ⟨.nestedTooDeep, .onNext, rest.length + 1⟩
        | some read =>
          if first = 0x5B then
            (items .list .finished (fun _ => read) [] rest (Nat.le_of_lt fewer)).map
              fun taken => taken.map Value.list
          else
            (items .object .finished (fun _ => member .finished read) [] rest
              (Nat.le_of_lt fewer)).map fun taken => taken.map Value.object
      else .error ⟨.valueExpected, .onNext, rest.length + 1⟩

/-- A value with at most `depth` levels of lists and objects. -/
def read : (depth : Nat) → Reader Value
  | 0 => readWith none
  | depth + 1 => readWith (some (read depth))

/-- The number of levels that may be nested. -/
def depthLimit : Nat := 127

/-- The value that a document consists of, or the first fault. -/
def scan (document : Bytes) : Except Fault Value :=
  match read depthLimit document with
  | .error fault => .error fault
  | .ok taken =>
    match atEnd .finished taken.rest with
    | .error fault => .error fault
    | .ok () => .ok taken.value

/-- The value that a document consists of. -/
def parse (document : Bytes) : Except Error Value :=
  (scan document).mapError fun fault => fault.error .whole document

end Value

end Replay.Json
