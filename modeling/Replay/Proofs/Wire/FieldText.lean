import Mathlib.Tactic.MkIffOfInductiveProp
import Replay.Proofs.Text.AsciiCase
import Replay.Proofs.Text.Encoding
import Replay.Wire.Head

/-!
# Names and values as texts

Which texts are names and values of fields, character by character, and what the octets of
a message amount to as texts. A name is a token of ASCII and is kept in small letters; a
value may hold every character but controls, of which it may hold only the tab; it reads
as text if it is of visible ASCII, blanks and tabs.
-/

namespace Replay

open Text Utf8

namespace Wire

/-- A character of a token. -/
def IsTokenChar (character : Char) : Prop :=
  character.isAlphanum = true ∨ character ∈ "!#$%&'*+-.^_`|~".toList

/-- A character of a value. -/
def IsValueChar (character : Char) : Prop :=
  character = '\t' ∨ 0x20 ≤ character.toNat ∧ character.toNat ≠ 0x7F

/-- A character of a value that reads as text. -/
def IsVisibleChar (character : Char) : Prop :=
  character = '\t' ∨ 0x20 ≤ character.toNat ∧ character.toNat ≤ 0x7E

instance : DecidablePred IsTokenChar := fun _ => inferInstanceAs (Decidable (_ ∨ _))

instance : DecidablePred IsValueChar := fun _ => inferInstanceAs (Decidable (_ ∨ _))

instance : DecidablePred IsVisibleChar := fun _ => inferInstanceAs (Decidable (_ ∨ _))

/-- The name of a field. -/
@[mk_iff]
structure LegalName (name : String) : Prop where
  nonempty : name ≠ ""
  short : name.length ≤ 65535
  token : ∀ character ∈ name.toList, IsTokenChar character

/-- The value of a field. -/
def LegalValue (value : String) : Prop :=
  ∀ character ∈ value.toList, IsValueChar character

/-- A text of tabs, blanks and visible ASCII. -/
def Visible (text : String) : Prop :=
  ∀ character ∈ text.toList, IsVisibleChar character

instance : DecidablePred Visible := fun text => List.decidableBAll IsVisibleChar text.toList

/-! ## Characters and their octets -/

theorem lt_of_isTokenChar {character : Char} (token : IsTokenChar character) :
    character.toNat < 0x80 := by
  rcases token with alphanumeric | mark
  · unfold Char.isAlphanum Char.isAlpha Char.isUpper Char.isLower Char.isDigit at alphanumeric
    simp only [Bool.or_eq_true, Bool.and_eq_true, decide_eq_true_eq, ge_iff_le,
      UInt32.le_iff_toNat_le, UInt32.reduceToNat, Char.reduceVal] at alphanumeric
    rw [Char.toNat]
    omega
  · have all : ("!#$%&'*+-.^_`|~".toList.all fun mark => mark.toNat < 0x80) = true := by decide
    exact of_decide_eq_true (List.all_eq_true.1 all character mark)

/-- What is checked of every octet holds of each. -/
theorem forall_octet {property : UInt8 → Prop}
    (all : ∀ code < 0x100, property (UInt8.ofNat code)) (octet : UInt8) : property octet := by
  rw [← octet.ofNat_toNat]
  exact all octet.toNat octet.toNat_lt

theorem tokenOctets_iff {text : String} :
    (∀ octet ∈ encode text, isTokenOctet octet = true) ↔
      ∀ character ∈ text.toList, IsTokenChar character := by
  refine forall_mem_encode_iff false (by decide +kernel)
    (forall_octet (by decide +kernel)) fun character large => ?_
  exact iff_of_false (fun token => Nat.not_lt.2 large (lt_of_isTokenChar token)) (by decide)

theorem valueOctets_iff {text : String} :
    (∀ octet ∈ encode text, isValueOctet octet = true) ↔ LegalValue text := by
  refine forall_mem_encode_iff true (by decide +kernel)
    (forall_octet (by decide +kernel)) fun character large => ?_
  exact iff_of_true (.inr (by omega)) rfl

theorem visibleOctets_iff {text : String} :
    (∀ octet ∈ encode text, isVisibleOctet octet = true) ↔ Visible text := by
  refine forall_mem_encode_iff false (by decide +kernel)
    (forall_octet (by decide +kernel)) fun character large => ?_
  refine iff_of_false ?_ (by decide)
  rintro (rfl | ⟨_, small⟩)
  · exact absurd large (by decide)
  · omega

/-! ## Octets of ASCII as texts -/

/-- Octets of ASCII encode the text that they are. -/
theorem encode_asciiText {octets : Bytes} (ascii : ∀ octet ∈ octets, octet < 0x80) :
    encode (asciiText octets) = octets := by
  rw [asciiText, encode_ofList]
  induction octets with
  | nil => rfl
  | cons octet octets ih =>
    rw [List.forall_mem_cons] at ascii
    rw [List.map_cons, encodeChars_cons, encodeChar_ofNat_of_lt_80 ascii.1, ih ascii.2]
    rfl

theorem isDigitOctet_iff {octet : UInt8} :
    isDigitOctet octet = true ↔ 0x30 ≤ octet.toNat ∧ octet.toNat ≤ 0x39 := by
  simp only [isDigitOctet, Bool.and_eq_true, decide_eq_true_eq, UInt8.le_iff_toNat_le,
    UInt8.reduceToNat]

theorem lt_of_isTokenOctet : ∀ octet, isTokenOctet octet = true → octet < 0x80 :=
  forall_octet (by decide +kernel)

theorem lt_of_isVisibleOctet : ∀ octet, isVisibleOctet octet = true → octet < 0x80 :=
  forall_octet (by decide +kernel)

/-- The text of a value is what its octets encode, if that is visible. -/
theorem visibleText?_eq (value : Bytes) :
    visibleText? value = (decode? value).filter fun text => Visible text := by
  by_cases all : ∀ octet ∈ value, isVisibleOctet octet = true
  · have encoded := encode_asciiText fun octet within => lt_of_isVisibleOctet octet (all octet within)
    have visible : Visible (asciiText value) := visibleOctets_iff.1 (by rwa [encoded])
    rw [visibleText?, if_pos (List.all_eq_true.2 all), decode?_eq_some_iff.2 encoded.symm,
      Option.filter_some, if_pos (decide_eq_true visible)]
  · rw [visibleText?, if_neg fun whole => all (List.all_eq_true.1 whole), eq_comm,
      Option.filter_eq_none_iff]
    intro text decoded visible
    obtain rfl := decode?_eq_some_iff.1 decoded
    exact all (visibleOctets_iff.2 (of_decide_eq_true visible))

/-! ## Names -/

section Names

variable {name : String}

theorem encode_of_token (token : ∀ character ∈ name.toList, IsTokenChar character) :
    encode name = name.toList.map fun character => UInt8.ofNat character.toNat :=
  encodeChars_of_ascii fun character within => lt_of_isTokenChar (token character within)

theorem legalName_octets_iff :
    LegalName name ↔ encode name ≠ [] ∧ (encode name).length ≤ FieldMap.longestName ∧
      ∀ octet ∈ encode name, isTokenOctet octet = true := by
  rw [legalName_iff, tokenOctets_iff, ← and_assoc, ← and_assoc]
  refine and_congr_left fun token => ?_
  rw [encode_of_token token, List.length_map, String.length_toList, ne_eq, ne_eq,
    List.map_eq_nil_iff, String.toList_eq_nil_iff]
  rfl

theorem ofNat_smallOctet {character : Char} (ascii : character.toNat < 0x80) :
    Char.ofNat (smallOctet (UInt8.ofNat character.toNat)).toNat = character.toLower := by
  have all : ∀ code < 0x80,
      Char.ofNat (smallOctet (UInt8.ofNat code)).toNat = (Char.ofNat code).toLower := by
    decide +kernel
  rw [all _ ascii, Char.ofNat_toNat]

/-- The small letters of a token are those of its text. -/
theorem asciiText_map_smallOctet (token : ∀ character ∈ name.toList, IsTokenChar character) :
    asciiText ((encode name).map smallOctet) = smallName name := by
  rw [encode_of_token token, asciiText, smallName, smallCase, List.map_map, List.map_map]
  congr 1
  exact List.map_congr_left fun character within =>
    ofNat_smallOctet (lt_of_isTokenChar (token character within))

namespace FieldMap

theorem name?_of_legal (legal : LegalName name) :
    name? (encode name) = some (smallName name) := by
  obtain ⟨nonempty, short, tokens⟩ := legalName_octets_iff.1 legal
  rw [name?, if_pos, asciiText_map_smallOctet legal.token]
  simpa [nonempty, short] using tokens

theorem name?_of_illegal (illegal : ¬ LegalName name) : name? (encode name) = none := by
  rw [name?, if_neg]
  simpa [legalName_octets_iff] using illegal

/-- The names of fields are kept in small letters. -/
theorem name?_eq_some_iff {octets : Bytes} {key : String} :
    name? octets = some key ↔
      ∃ name, octets = encode name ∧ LegalName name ∧ key = smallName name := by
  constructor
  · intro named
    have tokens : ∀ octet ∈ octets, isTokenOctet octet = true := by
      simp only [name?, Option.ite_none_right_eq_some, Bool.and_eq_true, List.all_eq_true] at named
      exact named.1.2
    obtain ⟨name, rfl⟩ := wellFormed_of_ascii fun octet within =>
      lt_of_isTokenOctet octet (tokens octet within)
    by_cases legal : LegalName name
    · rw [name?_of_legal legal] at named
      exact ⟨name, rfl, legal, (Option.some.inj named).symm⟩
    · rw [name?_of_illegal legal] at named
      cases named
  · rintro ⟨name, rfl, legal, rfl⟩
    exact name?_of_legal legal

theorem isSmall_of_name? {octets : Bytes} {key : String} (named : name? octets = some key) :
    IsSmall key := by
  obtain ⟨name, _, _, rfl⟩ := name?_eq_some_iff.1 named
  exact isSmall_smallName name

end FieldMap

end Names

end Wire

end Replay
