/-!
# UTF-8

Octet sequences, the UTF-8 form of a text, and the strict decoder. The decoder
accepts exactly the shortest encodings of Unicode scalar values; on anything
else it reports how many octets in front of the first ill-formed sequence were
well formed.
-/

namespace Replay

/-- A finite sequence of octets. -/
abbrev Bytes := List UInt8

namespace Utf8

/-- The octets of a sequence of characters. -/
def encodeChars (characters : List Char) : Bytes :=
  characters.flatMap String.utf8EncodeChar

/-- The octets of a text. -/
def encode (text : String) : Bytes :=
  encodeChars text.toList

/-- An octet that continues a sequence, `10xxxxxx`. -/
def isContinuation (octet : UInt8) : Bool :=
  0x80 ≤ octet && octet ≤ 0xBF

/-- The six payload bits of a continuation octet. -/
def payload (octet : UInt8) : Nat :=
  octet.toNat % 0x40

/-- The scalar value of a two-octet sequence, if it is one. -/
def two? (lead second : UInt8) : Option Char :=
  let code := lead.toNat % 0x20 * 0x40 + payload second
  if 0xC0 ≤ lead && lead ≤ 0xDF && isContinuation second && 0x80 ≤ code then
    some (Char.ofNat code)
  else none

/-- The scalar value of a three-octet sequence, if it is one. -/
def three? (lead second third : UInt8) : Option Char :=
  let code := lead.toNat % 0x10 * 0x1000 + payload second * 0x40 + payload third
  if 0xE0 ≤ lead && lead ≤ 0xEF && isContinuation second && isContinuation third
      && 0x800 ≤ code && !(0xD800 ≤ code && code ≤ 0xDFFF) then
    some (Char.ofNat code)
  else none

/-- The scalar value of a four-octet sequence, if it is one. -/
def four? (lead second third fourth : UInt8) : Option Char :=
  let code := lead.toNat % 0x08 * 0x40000 + payload second * 0x1000
    + payload third * 0x40 + payload fourth
  if 0xF0 ≤ lead && lead ≤ 0xF7 && isContinuation second && isContinuation third
      && isContinuation fourth && 0x10000 ≤ code && code ≤ 0x10FFFF then
    some (Char.ofNat code)
  else none

/-- Continue decoding after `valid` well-formed octets whose characters are
`decoded`, the last one first. -/
def decodeFrom (decoded : List Char) (valid : Nat) : Bytes → Except Nat (List Char)
  | [] => .ok decoded.reverse
  | lead :: rest =>
    if lead < 0x80 then decodeFrom (Char.ofNat lead.toNat :: decoded) (valid + 1) rest
    else match rest with
      | [] => .error valid
      | second :: rest =>
        match two? lead second with
        | some character => decodeFrom (character :: decoded) (valid + 2) rest
        | none => match rest with
          | [] => .error valid
          | third :: rest =>
            match three? lead second third with
            | some character => decodeFrom (character :: decoded) (valid + 3) rest
            | none => match rest with
              | [] => .error valid
              | fourth :: rest =>
                match four? lead second third fourth with
                | some character => decodeFrom (character :: decoded) (valid + 4) rest
                | none => .error valid

/-- The text that the octets encode, or the number of octets before the first
ill-formed sequence. -/
def decode (octets : Bytes) : Except Nat String :=
  (decodeFrom [] 0 octets).map String.ofList

/-- The text that the octets encode, if they are UTF-8. -/
def decode? (octets : Bytes) : Option String :=
  (decode octets).toOption

end Utf8

end Replay
