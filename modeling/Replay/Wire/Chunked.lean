import Replay.Wire.Line

/-!
# Chunked bodies

A chunked body is a sequence of chunks, each behind its size in hexadecimal
digits, up to a chunk of size zero and a trailer of header fields. Extensions of
chunks and the trailer are passed over; their length is bounded. What has arrived
of a body is the chunks that are complete, and whether the body is complete,
broken, or still awaited. The rules are those of the decoder of hyper 1.12, stated from
knowledge of that library.
-/

namespace Replay.Wire

/-- Why a body is not complete. -/
inductive Halt where
  /-- More octets are awaited. -/
  | awaited
  /-- What arrived is not a body. -/
  | broken
deriving DecidableEq

/-- What arrived of a body: its parts in order, and what follows the body, or why
the body is not complete. -/
structure Arrival where
  parts : List Bytes
  rest : Except Halt Bytes

/-- Put parts in front of an arrival. -/
def Arrival.after (parts : List Bytes) (arrival : Arrival) : Arrival :=
  { arrival with parts := parts ++ arrival.parts }

namespace Chunked

/-- The octets behind a given one, which must come first. -/
def expect (octet : UInt8) : Bytes → Except Halt Bytes
  | [] => .error .awaited
  | first :: rest => if first = octet then .ok rest else .error .broken

/-- The octets behind a line end, which must come first. -/
def lineEnd (input : Bytes) : Except Halt Bytes :=
  (expect 0x0D input).bind (expect 0x0A)

/-- A hexadecimal digit. -/
def isHexOctet (octet : UInt8) : Bool :=
  isDigitOctet octet || (0x41 ≤ octet && octet ≤ 0x46) || (0x61 ≤ octet && octet ≤ 0x66)

/-- The value of a hexadecimal digit. -/
def hexValue (octet : UInt8) : Nat :=
  if isDigitOctet octet then octet.toNat - 0x30 else octet.toNat % 0x20 + 9

/-- The number that hexadecimal digits denote. -/
def hexNumber (digits : Bytes) : Nat :=
  digits.foldl (fun total digit => total * 16 + hexValue digit) 0

/-- Sizes lie below this bound. -/
def sizeBound : Nat := UInt64.size

/-- The extensions of all chunks of a body take at most so many octets together. -/
def longestExtensions : Nat := 16383

/-- A trailer has at most so many lines. -/
def mostTrailerLines : Nat := 99

/-- A trailer that has lines takes at most so many octets. -/
def longestTrailer : Nat := 16383

/-- An octet of an extension. -/
def isExtensionOctet (octet : UInt8) : Bool :=
  octet != 0x0D && octet != 0x0A

/-- The room that the extension of a chunk leaves to later ones, and what follows the
line of its size, whose digits are consumed. Space may stand before the extension. -/
def sizeEnd (room : Nat) (input : Bytes) : Except Halt (Nat × Bytes) :=
  match input.dropWhile isGapOctet with
  | 0x3B :: rest =>
    let extension := rest.takeWhile isExtensionOctet
    if extension.length ≤ room then
      (lineEnd (rest.dropWhile isExtensionOctet)).map fun rest => (room - extension.length, rest)
    else .error .broken
  | rest => (lineEnd rest).map fun rest => (room, rest)

/-- The size of the next chunk, the room that its extension leaves, and what follows
its line. -/
def readSize (room : Nat) (input : Bytes) : Except Halt (Nat × Nat × Bytes) :=
  match input with
  | [] => .error .awaited
  | first :: _ =>
    if isHexOctet first then
      let size := hexNumber (input.takeWhile isHexOctet)
      if size < sizeBound then
        (sizeEnd room (input.dropWhile isHexOctet)).map fun read => (size, read)
      else .error .broken
    else .error .broken

/-- The lines of a trailer, of which there are at most so many, and what follows the
empty line that ends it. -/
def trailerLines (most : Nat) (input : Bytes) : Except Halt (List Bytes × Bytes) :=
  let line := input.takeWhile fun octet => octet != 0x0D
  match lineEnd (input.dropWhile fun octet => octet != 0x0D) with
  | .error halt => .error halt
  | .ok rest =>
    if line.isEmpty then .ok ([], rest)
    else
      match most with
      | 0 => .error .broken
      | most + 1 => (trailerLines most rest).map fun read => (line :: read.1, read.2)

/-- Whether the lines of a trailer hold header fields. A line feed within a line ends a
field too, and an empty field is the last that is looked at; but there are no more
fields than lines. -/
def holdFields (lines : List Bytes) : Bool :=
  let fields := (lines.flatMap fun line => line.splitOn 0x0A).takeWhile fun field => !field.isEmpty
  fields.length ≤ lines.length && fields.all fun field => (Line.field? field).isSome

/-- What follows a trailer, which is passed over. -/
def skipTrailer (input : Bytes) : Except Halt Bytes :=
  match trailerLines mostTrailerLines (input.take longestTrailer) with
  | .ok (lines, rest) =>
    if holdFields lines then .ok (rest ++ input.drop longestTrailer) else .error .broken
  | .error .broken => .error .broken
  | .error .awaited => .error (if input.length ≤ longestTrailer then .awaited else .broken)

/-- What arrived of a chunked body, read with a bound on the number of chunks and with
room for their extensions. -/
def readWithin : (bound room : Nat) → Bytes → Arrival
  | 0, _, _ => ⟨[], .error .broken⟩
  | bound + 1, room, input =>
    match readSize room input with
    | .error halt => ⟨[], .error halt⟩
    | .ok (0, _, rest) => ⟨[], skipTrailer rest⟩
    | .ok (size, room, rest) =>
      let part := rest.take size
      if part.length < size then ⟨if part.isEmpty then [] else [part], .error .awaited⟩
      else
        match lineEnd (rest.drop size) with
        | .error halt => ⟨[part], .error halt⟩
        | .ok rest => (readWithin bound room rest).after [part]

/-- What arrived of a chunked body. Every chunk takes octets, so there are no more
chunks than octets. -/
def read (input : Bytes) : Arrival :=
  readWithin (input.length + 1) longestExtensions input

end Chunked

end Replay.Wire
