import Replay.Json.Value
import Replay.Proofs.Text.Encoding

/-!
# The grammar of documents

Which octets form a document and which value they denote, said without any
reader. The grammar is the usual one: gaps of four kinds of octets around values
and punctuation, literals, numerals without leading zeros, quoted texts with short
and long escapes, lists and objects without trailing commas. Two limits belong to
it: lists and objects are nested at most 127 deep, and a numeral denotes a number
only where `Numeral.number` gives one.

Every document is a well-formed UTF-8 sequence: `Document.wellFormed`.
-/

namespace Replay.Json.Grammar

/-- Octets between the parts of a document: blank, tab, line feed, carriage return. -/
def Gap (octets : Bytes) : Prop :=
  ∀ octet ∈ octets, octet = 0x20 ∨ octet = 0x09 ∨ octet = 0x0A ∨ octet = 0x0D

instance (octets : Bytes) : Decidable (Gap octets) :=
  List.decidableBAll _ octets

/-! ## Texts -/

/-- A hexadecimal digit, in capital or small form, and its value. -/
inductive HexDigit : UInt8 → Nat → Prop where
  | decimal {octet : UInt8} {value : Nat} (small : value < 10)
      (code : octet.toNat = 0x30 + value) : HexDigit octet value
  | capital {octet : UInt8} {value : Nat} (large : 10 ≤ value) (small : value < 16)
      (code : octet.toNat = 0x41 + (value - 10)) : HexDigit octet value
  | little {octet : UInt8} {value : Nat} (large : 10 ≤ value) (small : value < 16)
      (code : octet.toNat = 0x61 + (value - 10)) : HexDigit octet value

/-- Four hexadecimal digits, and the 16-bit unit that they denote. -/
inductive HexUnit : Bytes → Nat → Prop where
  | digits {first second third fourth : UInt8} {a b c d : Nat}
      (highest : HexDigit first a) (high : HexDigit second b)
      (low : HexDigit third c) (lowest : HexDigit fourth d) :
      HexUnit [first, second, third, fourth] (a * 0x1000 + b * 0x100 + c * 0x10 + d)

/-- The letters of short escapes and the characters that they stand for. -/
def shortEscapes : List (UInt8 × Char) :=
  [(0x22, '"'), (0x5C, '\\'), (0x2F, '/'), (0x62, '\x08'), (0x66, '\x0C'), (0x6E, '\n'),
   (0x72, '\r'), (0x74, '\t')]

/-- An escape of a character. Since a character is never a surrogate, a unit of
its own is none either, and the units of a pair are a leading and a trailing one. -/
inductive Escape : Char → Bytes → Prop where
  | short {letter : UInt8} {character : Char} (listed : (letter, character) ∈ shortEscapes) :
      Escape character [0x5C, letter]
  | unit {character : Char} {digits : Bytes} (unit : HexUnit digits character.toNat) :
      Escape character (0x5C :: 0x75 :: digits)
  | pair {character : Char} {leading trailing : Bytes} (beyond : 0x10000 ≤ character.toNat)
      (first : HexUnit leading (0xD800 + (character.toNat - 0x10000) / 0x400))
      (second : HexUnit trailing (0xDC00 + (character.toNat - 0x10000) % 0x400)) :
      Escape character (0x5C :: 0x75 :: leading ++ 0x5C :: 0x75 :: trailing)

/-- One character between quotes: as itself, unless it is a control character, a
quote or a backslash, or as an escape. -/
inductive Letter : Char → Bytes → Prop where
  | plain {character : Char} (printed : 0x20 ≤ character.toNat) (noQuote : character ≠ '"')
      (noBackslash : character ≠ '\\') : Letter character (String.utf8EncodeChar character)
  | escaped {character : Char} {octets : Bytes} (escape : Escape character octets) :
      Letter character octets

/-- The characters between quotes. -/
inductive Letters : List Char → Bytes → Prop where
  | nil : Letters [] []
  | cons {character : Char} {characters : List Char} {octets rest : Bytes}
      (one : Letter character octets) (more : Letters characters rest) :
      Letters (character :: characters) (octets ++ rest)

/-- A text in its quotes. -/
inductive Quoted : String → Bytes → Prop where
  | quotes {text : String} {octets : Bytes} (letters : Letters text.toList octets) :
      Quoted text (0x22 :: octets ++ [0x22])

/-- Characters that stand for themselves between quotes. -/
def Plain (characters : List Char) : Prop :=
  ∀ character ∈ characters, 0x20 ≤ character.toNat ∧ character ≠ '"' ∧ character ≠ '\\'

instance (characters : List Char) : Decidable (Plain characters) :=
  List.decidableBAll _ characters

theorem Letters.of_plain {characters : List Char} (plain : Plain characters) :
    Letters characters (Utf8.encodeChars characters) := by
  induction characters with
  | nil => exact .nil
  | cons character characters ih =>
    obtain ⟨⟨printed, noQuote, noBackslash⟩, rest⟩ := List.forall_mem_cons.1 plain
    exact .cons (.plain printed noQuote noBackslash) (ih rest)

/-- A text of such characters is written as it is. -/
theorem Quoted.of_plain {text : String} (plain : Plain text.toList) :
    Quoted text (0x22 :: Utf8.encode text ++ [0x22]) :=
  .quotes (.of_plain plain)

/-! ## Numerals -/

/-- ASCII digits, at least one. -/
def Digits (octets : Bytes) : Prop :=
  octets ≠ [] ∧ ∀ octet ∈ octets, 0x30 ≤ octet ∧ octet ≤ 0x39

instance (octets : Bytes) : Decidable (Digits octets) :=
  @instDecidableAnd _ _ inferInstance (List.decidableBAll _ octets)

/-- The digits before the point: a zero alone, or digits that do not start with one. -/
inductive Whole : Bytes → Prop where
  | zero : Whole [0x30]
  | digits {first : UInt8} {rest : Bytes} (digits : Digits (first :: rest))
      (leading : first ≠ 0x30) : Whole (first :: rest)

/-- The digits after the point, with the point. -/
inductive Fraction : Bytes → Bytes → Prop where
  | absent : Fraction [] []
  | present {digits : Bytes} (shown : Digits digits) : Fraction digits (0x2E :: digits)

/-- The sign of an exponent, and whether it is negative. -/
inductive Sign : Bool → Bytes → Prop where
  | absent : Sign false []
  | plus : Sign false [0x2B]
  | minus : Sign true [0x2D]

/-- An exponent, with its mark. -/
inductive Power : Option Exponent → Bytes → Prop where
  | absent : Power none []
  | present {mark : UInt8} {negative : Bool} {sign digits : Bytes}
      (letter : mark = 0x65 ∨ mark = 0x45) (signed : Sign negative sign)
      (shown : Digits digits) : Power (some ⟨negative, digits⟩) (mark :: sign ++ digits)

/-- A numeral without its sign. -/
inductive Magnitude : Json.Numeral → Bytes → Prop where
  | parts {numeral : Json.Numeral} {fraction power : Bytes} (whole : Whole numeral.whole)
      (broken : Fraction numeral.fraction fraction) (scaled : Power numeral.exponent power) :
      Magnitude numeral (numeral.whole ++ fraction ++ power)

/-- A numeral. -/
inductive Numeral : Json.Numeral → Bytes → Prop where
  | positive {numeral : Json.Numeral} {octets : Bytes} (unsigned : numeral.negative = false)
      (magnitude : Magnitude numeral octets) : Numeral numeral octets
  | negative {numeral : Json.Numeral} {octets : Bytes} (signed : numeral.negative = true)
      (magnitude : Magnitude numeral octets) : Numeral numeral (0x2D :: octets)

/-! ## Values -/

/-- A value without parts. -/
inductive Scalar : Json.Scalar → Bytes → Prop where
  | null : Scalar .null [0x6E, 0x75, 0x6C, 0x6C]
  | yes : Scalar (.boolean true) [0x74, 0x72, 0x75, 0x65]
  | no : Scalar (.boolean false) [0x66, 0x61, 0x6C, 0x73, 0x65]
  | number {numeral : Json.Numeral} {number : Number} {octets : Bytes}
      (written : Numeral numeral octets) (inRange : numeral.number = .ok number) :
      Scalar (.number number) octets
  | text {text : String} {octets : Bytes} (quoted : Quoted text octets) :
      Scalar (.text text) octets

section Items

variable {α : Type} (form : α → Bytes → Prop)

/-- What follows an item up to the closing bracket: more items, each behind a comma. -/
inductive Later : List α → Bytes → Prop where
  | done {gap : Bytes} (blank : Gap gap) : Later [] gap
  | more {value : α} {values : List α} {before after octets rest : Bytes}
      (blankBefore : Gap before) (blankAfter : Gap after) (item : form value octets)
      (later : Later values rest) :
      Later (value :: values) (before ++ 0x2C :: after ++ octets ++ rest)

/-- What stands between brackets. -/
inductive Items : List α → Bytes → Prop where
  | empty {gap : Bytes} (blank : Gap gap) : Items [] gap
  | filled {value : α} {values : List α} {gap octets rest : Bytes} (blank : Gap gap)
      (first : form value octets) (later : Later form values rest) :
      Items (value :: values) (gap ++ octets ++ rest)

/-- A member of an object: a name, a colon and a value. -/
inductive Member : String × α → Bytes → Prop where
  | named {name : String} {value : α} {key before after octets : Bytes}
      (quoted : Quoted name key) (blankBefore : Gap before) (blankAfter : Gap after)
      (item : form value octets) :
      Member (name, value) (key ++ before ++ 0x3A :: after ++ octets)

end Items

/-- A value with the given parts. -/
inductive Value (part : Json.Value → Bytes → Prop) : Json.Value → Bytes → Prop where
  | scalar {scalar : Json.Scalar} {octets : Bytes} (written : Scalar scalar octets) :
      Value part (.scalar scalar) octets
  | list {elements : List Json.Value} {octets : Bytes} (items : Items part elements octets) :
      Value part (.list elements) (0x5B :: octets ++ [0x5D])
  | object {members : List (String × Json.Value)} {octets : Bytes}
      (items : Items (Member part) members octets) :
      Value part (.object members) (0x7B :: octets ++ [0x7D])

/-- A value with at most so many levels of lists and objects. -/
def Nested : (depth : Nat) → Json.Value → Bytes → Prop
  | 0, .scalar scalar, octets => Scalar scalar octets
  | 0, _, _ => False
  | depth + 1, value, octets => Value (Nested depth) value octets

/-- A document: one value of at most 127 levels, with gaps around it. -/
inductive Document : Json.Value → Bytes → Prop where
  | whole {value : Json.Value} {before octets after : Bytes} (blankBefore : Gap before)
      (nested : Nested 127 value octets) (blankAfter : Gap after) :
      Document value (before ++ octets ++ after)

/-! ## Well-formed octets -/

open Utf8 (WellFormed wellFormed_nil wellFormed_of_ascii wellFormed_encodeChar)

theorem Gap.wellFormed {octets : Bytes} (blank : Gap octets) : WellFormed octets := by
  apply wellFormed_of_ascii
  intro octet within
  rcases blank octet within with rfl | rfl | rfl | rfl <;> decide

theorem HexDigit.ascii {octet : UInt8} {value : Nat} (digit : HexDigit octet value) :
    octet < 0x80 := by
  simp only [UInt8.lt_iff_toNat_lt, UInt8.reduceToNat]
  cases digit <;> omega

theorem HexUnit.wellFormed {digits : Bytes} {unit : Nat} (written : HexUnit digits unit) :
    WellFormed digits := by
  obtain ⟨highest, high, low, lowest⟩ := written
  apply wellFormed_of_ascii
  simp [highest.ascii, high.ascii, low.ascii, lowest.ascii]

theorem Escape.wellFormed {character : Char} {octets : Bytes}
    (escape : Escape character octets) : WellFormed octets := by
  cases escape with
  | short listed =>
    have ascii : ∀ entry ∈ shortEscapes, entry.1 < 0x80 := by decide
    exact (wellFormed_nil.cons (ascii _ listed)).cons (by decide)
  | unit unit => exact (unit.wellFormed.cons (by decide)).cons (by decide)
  | pair _ first second =>
    have behind : WellFormed (0x5C :: 0x75 :: _) :=
      (second.wellFormed.cons (by decide)).cons (by decide)
    exact ((first.wellFormed.append behind).cons (by decide)).cons (by decide)

theorem Letters.wellFormed {characters : List Char} {octets : Bytes}
    (letters : Letters characters octets) : WellFormed octets := by
  induction letters with
  | nil => exact wellFormed_nil
  | cons one _ ih =>
    refine WellFormed.append ?_ ih
    cases one with
    | plain _ _ _ => exact wellFormed_encodeChar _
    | escaped escape => exact escape.wellFormed

theorem Quoted.wellFormed {text : String} {octets : Bytes} (quoted : Quoted text octets) :
    WellFormed octets := by
  obtain ⟨letters⟩ := quoted
  exact (letters.wellFormed.cons (by decide)).append (wellFormed_nil.cons (by decide))

theorem Digits.wellFormed {octets : Bytes} (digits : Digits octets) : WellFormed octets := by
  apply wellFormed_of_ascii
  intro octet within
  have ⟨_, atMost⟩ := digits.2 octet within
  simp only [UInt8.le_iff_toNat_le, UInt8.lt_iff_toNat_lt, UInt8.reduceToNat] at atMost ⊢
  omega

theorem Whole.wellFormed {octets : Bytes} (whole : Whole octets) : WellFormed octets := by
  cases whole with
  | zero => exact wellFormed_nil.cons (by decide)
  | digits digits _ => exact digits.wellFormed

theorem Fraction.wellFormed {digits octets : Bytes} (fraction : Fraction digits octets) :
    WellFormed octets := by
  cases fraction with
  | absent => exact wellFormed_nil
  | present shown => exact shown.wellFormed.cons (by decide)

theorem Power.wellFormed {exponent : Option Exponent} {octets : Bytes}
    (power : Power exponent octets) : WellFormed octets := by
  cases power with
  | absent => exact wellFormed_nil
  | present letter signed shown =>
    refine (WellFormed.cons ?_ ?_).append shown.wellFormed
    · rcases letter with rfl | rfl <;> decide
    · cases signed with
      | absent => exact wellFormed_nil
      | plus => exact wellFormed_nil.cons (by decide)
      | minus => exact wellFormed_nil.cons (by decide)

theorem Magnitude.wellFormed {numeral : Json.Numeral} {octets : Bytes}
    (magnitude : Magnitude numeral octets) : WellFormed octets := by
  obtain ⟨whole, broken, scaled⟩ := magnitude
  exact (whole.wellFormed.append broken.wellFormed).append scaled.wellFormed

theorem Scalar.wellFormed {value : Json.Scalar} {octets : Bytes} (written : Scalar value octets) :
    WellFormed octets := by
  cases written with
  | null => exact wellFormed_of_ascii (by simp)
  | yes => exact wellFormed_of_ascii (by simp)
  | no => exact wellFormed_of_ascii (by simp)
  | number written _ =>
    cases written with
    | positive _ magnitude => exact magnitude.wellFormed
    | negative _ magnitude => exact magnitude.wellFormed.cons (by decide)
  | text quoted => exact quoted.wellFormed

section Items

variable {α : Type} {form : α → Bytes → Prop}
  (formed : ∀ {value octets}, form value octets → WellFormed octets)

include formed

theorem Later.wellFormed {values : List α} {octets : Bytes} (later : Later form values octets) :
    WellFormed octets := by
  induction later with
  | done blank => exact blank.wellFormed
  | more blankBefore blankAfter item _ ih =>
    exact ((blankBefore.wellFormed.append (blankAfter.wellFormed.cons (by decide))).append
      (formed item)).append ih

theorem Items.wellFormed {values : List α} {octets : Bytes} (items : Items form values octets) :
    WellFormed octets := by
  cases items with
  | empty blank => exact blank.wellFormed
  | filled blank first later =>
    exact (blank.wellFormed.append (formed first)).append (later.wellFormed formed)

theorem Member.wellFormed {named : String × α} {octets : Bytes}
    (member : Member form named octets) : WellFormed octets := by
  obtain ⟨quoted, blankBefore, blankAfter, item⟩ := member
  exact ((quoted.wellFormed.append blankBefore.wellFormed).append
    (blankAfter.wellFormed.cons (by decide))).append (formed item)

end Items

theorem Nested.wellFormed {depth : Nat} {value : Json.Value} {octets : Bytes}
    (nested : Nested depth value octets) : WellFormed octets := by
  induction depth generalizing value octets with
  | zero =>
    cases value with
    | scalar scalar => exact Scalar.wellFormed nested
    | list elements => exact nested.elim
    | object members => exact nested.elim
  | succ depth ih =>
    cases nested with
    | scalar written => exact written.wellFormed
    | list items =>
      exact ((items.wellFormed ih).cons (by decide)).append (wellFormed_nil.cons (by decide))
    | object items =>
      exact ((items.wellFormed (Member.wellFormed ih)).cons (by decide)).append
        (wellFormed_nil.cons (by decide))

/-- Documents are texts in UTF-8. -/
theorem Document.wellFormed {value : Json.Value} {octets : Bytes}
    (document : Document value octets) : WellFormed octets := by
  obtain ⟨blankBefore, nested, blankAfter⟩ := document
  exact (blankBefore.wellFormed.append nested.wellFormed).append blankAfter.wellFormed

end Replay.Json.Grammar
