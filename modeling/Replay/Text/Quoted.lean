import Replay.Text.Unprinted

/-!
# Quoted text

The form in which messages show a text that came from outside: between double
quotes, with quotes, backslashes and line controls written as short escapes and
every other character without a printed form as `\u` with its code point in
small hexadecimal digits between braces. What is written holds no control
character, and two different texts never look the same.
-/

namespace Replay.Text

/-- The small hexadecimal digits of a number, without leading zeros. -/
def hexDigits (number : Nat) : List Char :=
  Nat.toDigits 16 number

/-- The long escape of a character. -/
def codeEscape (character : Char) : List Char :=
  '\\' :: 'u' :: '\x7b' :: (hexDigits character.toNat ++ ['\x7d'])

/-- How one character stands inside the quotes. -/
def quotedChar (character : Char) : List Char :=
  if character = '"' then ['\\', '"']
  else if character = '\\' then ['\\', '\\']
  else if character = '\n' then ['\\', 'n']
  else if character = '\r' then ['\\', 'r']
  else if character = '\t' then ['\\', 't']
  else if character = '\x00' then ['\\', '0']
  else if character.toNat < 0x20 || character.toNat = 0x7F then codeEscape character
  else if character.toNat < 0x7F then [character]
  else if isUnprinted character then codeEscape character
  else [character]

/-- The characters between the quotes. -/
def quotedChars (text : List Char) : List Char :=
  text.flatMap quotedChar

/-- A text between quotes. -/
def quoted (text : String) : String :=
  String.ofList ('"' :: (quotedChars text.toList ++ ['"']))

end Replay.Text
