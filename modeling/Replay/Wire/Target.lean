import Replay.Wire.Octet

/-!
# Request targets

The path that a request target names. A target is a path, an asterisk, an
absolute address with a scheme, or a bare authority. Query and fragment are
checked where they are allowed and left out of the path.
-/

namespace Replay.Wire.Target

/-- Why a target is refused. -/
inductive Refusal where
  | empty
  | octet
  | authority
  | form
  | targetTooLong
  | schemeTooLong
deriving DecidableEq

/-- The wording of a refusal. -/
def Refusal.message : Refusal → String
  | .empty => "empty string"
  | .octet => "invalid uri character"
  | .authority => "invalid authority"
  | .form => "invalid format"
  | .targetTooLong => "uri too long"
  | .schemeTooLong => "scheme too long"

/-- Targets are at most this long. -/
def longestTarget : Nat := 65534

/-- Schemes other than the two of the web are at most this long. -/
def longestScheme : Nat := 64

/-- An octet of a path, before it is judged as UTF-8. Quotes and braces are let
through, as clients send them. -/
def isPathOctet (octet : UInt8) : Bool :=
  octet == 0x21 || octet == 0x22 || (0x24 ≤ octet && octet ≤ 0x3B) || octet == 0x3D
    || (0x40 ≤ octet && octet ≤ 0x5F) || (0x61 ≤ octet && octet != 0x7F)

/-- An octet of a query, before it is judged as UTF-8. -/
def isQueryOctet (octet : UInt8) : Bool :=
  octet == 0x21 || (0x24 ≤ octet && octet ≤ 0x3B) || octet == 0x3D
    || (0x3F ≤ octet && octet != 0x7F)

/-- The path of what follows an authority or stands alone. -/
def pathOf (octets : Bytes) : Except Refusal String :=
  let kept := octets.takeWhile fun octet => octet != 0x23
  let path := kept.takeWhile fun octet => octet != 0x3F
  let query := kept.dropWhile fun octet => octet != 0x3F
  if path.all isPathOctet && query.all isQueryOctet && (Utf8.decode? kept).isSome then
    match Utf8.decode? path with
    | some path => .ok path
    | none => .error .octet
  else .error .octet

/-- What was seen of an authority: colons since the last user information or
bracket, brackets, a percent sign behind the user information, an at sign at the end. -/
structure Survey where
  colons : Nat
  opened : Bool
  closed : Bool
  percent : Bool
  atEnd : Bool

/-- Nothing was seen yet. -/
def Survey.start : Survey := ⟨0, false, false, false, false⟩

/-- Up to eight colons stand between brackets. -/
def mostColons : Nat := 8

/-- An octet of an authority without a meaning of its own. -/
def isPlainOctet (octet : UInt8) : Bool :=
  isLetterOctet octet || isDigitOctet octet || octet == 0x21 || octet == 0x24
    || (0x26 ≤ octet && octet ≤ 0x2E) || octet == 0x3B || octet == 0x3D || octet == 0x5F
    || octet == 0x7E

/-- See the next octet of an authority. -/
def Survey.see (survey : Survey) (octet : UInt8) : Except Refusal Survey :=
  let survey := { survey with atEnd := false }
  if octet = 0x3A then
    if survey.colons < mostColons then .ok { survey with colons := survey.colons + 1 }
    else .error .authority
  else if octet = 0x5B then
    if survey.percent || survey.opened then .error .authority
    else .ok { survey with opened := true }
  else if octet = 0x5D then
    if !survey.opened || survey.closed then .error .authority
    else .ok { survey with closed := true, colons := 0, percent := false }
  else if octet = 0x40 then .ok { survey with atEnd := true, colons := 0, percent := false }
  else if octet = 0x25 then .ok { survey with percent := true }
  else if isPlainOctet octet then .ok survey
  else .error .octet

/-- Whether what was seen makes an authority. -/
def Survey.isComplete (survey : Survey) : Bool :=
  survey.opened == survey.closed && survey.colons ≤ 1 && !survey.atEnd && !survey.percent

/-- What follows an authority: a path, a query, a fragment or nothing. -/
def afterAuthority (survey : Survey) : Bytes → Except Refusal Bytes
  | [] => if survey.isComplete then .ok [] else .error .authority
  | octet :: rest =>
    if octet = 0x2F || octet = 0x3F || octet = 0x23 then
      if survey.isComplete then .ok (octet :: rest) else .error .authority
    else
      match survey.see octet with
      | .error refusal => .error refusal
      | .ok survey => afterAuthority survey rest

/-- An octet of a scheme. -/
def isSchemeOctet (octet : UInt8) : Bool :=
  isLetterOctet octet || isDigitOctet octet || octet == 0x2B || octet == 0x2D || octet == 0x2E
    || octet == 0x7E

/-- What follows a colon and two slashes, if they come first. -/
def afterMark? : Bytes → Option Bytes
  | 0x3A :: 0x2F :: 0x2F :: rest => some rest
  | _ => none

/-- The scheme of an address and what follows it, if it has one. -/
def splitScheme? (octets : Bytes) : Option (Bytes × Bytes) :=
  if octets.length ≤ 3 then none
  else
    (afterMark? (octets.dropWhile isSchemeOctet)).map fun rest =>
      (octets.takeWhile isSchemeOctet, rest)

/-- The path of an address without a scheme, which is a bare authority: empty. -/
def pathOfAuthority (octets : Bytes) : Except Refusal String :=
  match afterAuthority .start octets with
  | .error refusal => .error refusal
  | .ok [] => .ok ""
  | .ok (_ :: _) => .error (if octets.length = 1 then .octet else .form)

/-- The path of an address behind its scheme; the root if it has none. There must be
an authority, and something at all. -/
def pathOfAddress (octets : Bytes) : Except Refusal String :=
  if octets.isEmpty then .error .empty
  else
    match afterAuthority .start octets with
    | .error refusal => .error refusal
    | .ok rest =>
      if rest.length = octets.length then .error .form
      else (pathOf rest).map fun path => if path.isEmpty then "/" else path

/-- The path that a target names. -/
def path (target : Bytes) : Except Refusal String :=
  if target.length > longestTarget then .error .targetTooLong
  else
    match target with
    | [] => .error .empty
    | 0x2F :: _ => pathOf target
    | [0x2A] => .ok "*"
    | _ =>
      match splitScheme? target with
      | none => pathOfAuthority target
      | some (scheme, rest) =>
        if scheme.length > longestScheme then .error .schemeTooLong else pathOfAddress rest

end Replay.Wire.Target
