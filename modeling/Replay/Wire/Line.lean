import Replay.Wire.Octet

/-!
# Lines

The lines at the front of a message up to the first empty one, and the header
fields they hold. A line ends with a line feed, before which a carriage return
may stand.
-/

namespace Replay.Wire

namespace Line

/-- A line without the carriage return at its end. -/
def withoutReturn (reversed : Bytes) : Bytes :=
  match reversed with
  | 0x0D :: line => line.reverse
  | line => line.reverse

/-- Collect lines up to an empty one behind those already read, the last one
first, and the octets of the line at hand, the last one first. Empty lines before
the first line are passed over. -/
def collect (lines : List Bytes) (reversed : Bytes) : Bytes → Option (List Bytes × Bytes)
  | [] => none
  | octet :: rest =>
    if octet = 0x0A then
      let line := withoutReturn reversed
      if !line.isEmpty then collect (line :: lines) [] rest
      else if lines.isEmpty then collect [] [] rest
      else some (lines.reverse, rest)
    else collect lines (octet :: reversed) rest

/-- The lines before the first empty one and what follows it, if it has arrived. -/
def block? (input : Bytes) : Option (List Bytes × Bytes) :=
  collect [] [] input

/-- The name and the value of a header field: a token, a colon right behind it,
and a value between spaces and tabs that do not belong to it. -/
def field? (line : Bytes) : Option (Bytes × Bytes) :=
  let name := line.takeWhile isTokenOctet
  match line.dropWhile isTokenOctet with
  | 0x3A :: rest =>
    let value := trimGaps rest
    if !name.isEmpty && value.all isValueOctet then some (name, value) else none
  | _ => none

end Line

end Replay.Wire
