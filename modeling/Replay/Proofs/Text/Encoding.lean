import Replay.Text.Utf8

/-!
# Encoding and decoding

The decoder of `Utf8` takes exactly the encodings of texts: `decode_eq_ok_iff`.
Beside it stand the facts on single octets that a reader of quoted text needs: an
encoding is a lead octet and then only continuation octets, and no encoding is the
beginning of another.
-/

namespace Replay.Utf8

@[simp] theorem encodeChars_nil : encodeChars [] = [] := rfl

@[simp] theorem encodeChars_cons (character : Char) (characters : List Char) :
    encodeChars (character :: characters)
      = String.utf8EncodeChar character ++ encodeChars characters := rfl

theorem encode_ofList (characters : List Char) :
    encode (String.ofList characters) = encodeChars characters := by
  rw [encode, String.toList_ofList]

/-! ## The octets of one character -/

theorem toNat_ofNat_of_valid (code : Nat) (valid : code.isValidChar) :
    (Char.ofNat code).toNat = code := by
  unfold Char.ofNat
  rw [dif_pos valid]
  rfl

theorem toNat_bounds (character : Char) :
    character.toNat < 0xD800 ∨ 0xDFFF < character.toNat ∧ character.toNat < 0x110000 :=
  character.valid

theorem encodeChar_of_lt_80 {character : Char} (small : character.toNat < 0x80) :
    String.utf8EncodeChar character = [UInt8.ofNat character.toNat] := by
  have bound : character.val.toNat ≤ 0x7F := Nat.le_of_lt_succ small
  rw [String.utf8EncodeChar, if_pos bound]
  rfl

/-- Characters of ASCII are encoded as one octet each. -/
theorem encodeChars_of_ascii {characters : List Char}
    (ascii : ∀ character ∈ characters, character.toNat < 0x80) :
    encodeChars characters = characters.map fun character => UInt8.ofNat character.toNat := by
  induction characters with
  | nil => rfl
  | cons character characters ih =>
    rw [List.forall_mem_cons] at ascii
    rw [encodeChars_cons, encodeChar_of_lt_80 ascii.1, ih ascii.2]
    rfl

theorem encodeChar_of_lt_800 {character : Char} (large : 0x80 ≤ character.toNat)
    (small : character.toNat < 0x800) :
    String.utf8EncodeChar character =
      [UInt8.ofNat (character.toNat / 0x40 % 0x20 + 0xC0),
        UInt8.ofNat (character.toNat % 0x40 + 0x80)] := by
  have above : ¬ character.val.toNat ≤ 0x7F := Nat.not_le_of_lt large
  have bound : character.val.toNat ≤ 0x7FF := Nat.le_of_lt_succ small
  rw [String.utf8EncodeChar, if_neg above, if_pos bound]
  rfl

theorem encodeChar_of_lt_10000 {character : Char} (large : 0x800 ≤ character.toNat)
    (small : character.toNat < 0x10000) :
    String.utf8EncodeChar character =
      [UInt8.ofNat (character.toNat / 0x1000 % 0x10 + 0xE0),
        UInt8.ofNat (character.toNat / 0x40 % 0x40 + 0x80),
        UInt8.ofNat (character.toNat % 0x40 + 0x80)] := by
  have above : ¬ character.val.toNat ≤ 0x7FF := Nat.not_le_of_lt large
  have higher : ¬ character.val.toNat ≤ 0x7F := fun low => above (Nat.le_trans low (by decide))
  have bound : character.val.toNat ≤ 0xFFFF := Nat.le_of_lt_succ small
  rw [String.utf8EncodeChar, if_neg higher, if_neg above, if_pos bound]
  rfl

theorem encodeChar_of_ge_10000 {character : Char} (large : 0x10000 ≤ character.toNat) :
    String.utf8EncodeChar character =
      [UInt8.ofNat (character.toNat / 0x40000 % 0x08 + 0xF0),
        UInt8.ofNat (character.toNat / 0x1000 % 0x40 + 0x80),
        UInt8.ofNat (character.toNat / 0x40 % 0x40 + 0x80),
        UInt8.ofNat (character.toNat % 0x40 + 0x80)] := by
  have above : ¬ character.val.toNat ≤ 0xFFFF := Nat.not_le_of_lt large
  have higher : ¬ character.val.toNat ≤ 0x7FF := fun low => above (Nat.le_trans low (by decide))
  have highest : ¬ character.val.toNat ≤ 0x7F := fun low => above (Nat.le_trans low (by decide))
  rw [String.utf8EncodeChar, if_neg highest, if_neg higher, if_neg above]
  rfl

/-! ## The decoder on one character -/

theorem isContinuation_iff {octet : UInt8} :
    isContinuation octet = true ↔ 0x80 ≤ octet.toNat ∧ octet.toNat ≤ 0xBF := by
  simp only [isContinuation, Bool.and_eq_true, decide_eq_true_eq, UInt8.le_iff_toNat_le,
    UInt8.reduceToNat]

theorem two?_eq_some_iff {lead second : UInt8} {character : Char} :
    two? lead second = some character ↔ 0x80 ≤ character.toNat ∧ character.toNat < 0x800 ∧
      [lead, second] = String.utf8EncodeChar character := by
  simp only [two?, Option.ite_none_right_eq_some, Option.some.injEq, Bool.and_eq_true,
    decide_eq_true_eq, isContinuation_iff, UInt8.le_iff_toNat_le, UInt8.reduceToNat]
  unfold payload
  constructor
  · rintro ⟨conditions, rfl⟩
    have code := toNat_ofNat_of_valid
      (lead.toNat % 0x20 * 0x40 + second.toNat % 0x40) (by left; omega)
    have large := conditions.2
    have small : lead.toNat % 0x20 * 0x40 + second.toNat % 0x40 < 0x800 := by omega
    rw [← code] at large small
    refine ⟨large, small, ?_⟩
    rw [encodeChar_of_lt_800 large small, code]
    simp only [List.cons.injEq, ← UInt8.toNat_inj, UInt8.toNat_ofNat', and_true]
    omega
  · rintro ⟨large, small, octets⟩
    simp only [encodeChar_of_lt_800 large small, List.cons.injEq, ← UInt8.toNat_inj,
      UInt8.toNat_ofNat', and_true] at octets
    refine ⟨by omega, ?_⟩
    rw [← Char.ofNat_toNat character]
    congr 1
    omega

theorem three?_eq_some_iff {lead second third : UInt8} {character : Char} :
    three? lead second third = some character ↔
      0x800 ≤ character.toNat ∧ character.toNat < 0x10000 ∧
        [lead, second, third] = String.utf8EncodeChar character := by
  simp only [three?, Option.ite_none_right_eq_some, Option.some.injEq, Bool.and_eq_true,
    Bool.not_eq_true', Bool.and_eq_false_iff, decide_eq_true_eq, decide_eq_false_iff_not,
    isContinuation_iff, UInt8.le_iff_toNat_le, UInt8.reduceToNat]
  unfold payload
  constructor
  · rintro ⟨conditions, rfl⟩
    have code := toNat_ofNat_of_valid
      (lead.toNat % 0x10 * 0x1000 + second.toNat % 0x40 * 0x40 + third.toNat % 0x40)
      (by unfold Nat.isValidChar; omega)
    have large := conditions.1.2
    have small : lead.toNat % 0x10 * 0x1000 + second.toNat % 0x40 * 0x40 + third.toNat % 0x40
        < 0x10000 := by omega
    rw [← code] at large small
    refine ⟨large, small, ?_⟩
    rw [encodeChar_of_lt_10000 large small, code]
    simp only [List.cons.injEq, ← UInt8.toNat_inj, UInt8.toNat_ofNat', and_true]
    omega
  · rintro ⟨large, small, octets⟩
    simp only [encodeChar_of_lt_10000 large small, List.cons.injEq, ← UInt8.toNat_inj,
      UInt8.toNat_ofNat', and_true] at octets
    have valid := toNat_bounds character
    refine ⟨by omega, ?_⟩
    rw [← Char.ofNat_toNat character]
    congr 1
    omega

theorem four?_eq_some_iff {lead second third fourth : UInt8} {character : Char} :
    four? lead second third fourth = some character ↔ 0x10000 ≤ character.toNat ∧
      [lead, second, third, fourth] = String.utf8EncodeChar character := by
  simp only [four?, Option.ite_none_right_eq_some, Option.some.injEq, Bool.and_eq_true,
    decide_eq_true_eq, isContinuation_iff, UInt8.le_iff_toNat_le, UInt8.reduceToNat]
  unfold payload
  constructor
  · rintro ⟨conditions, rfl⟩
    have code := toNat_ofNat_of_valid
      (lead.toNat % 0x08 * 0x40000 + second.toNat % 0x40 * 0x1000
        + third.toNat % 0x40 * 0x40 + fourth.toNat % 0x40)
      (by right; omega)
    have large := conditions.1.2
    rw [← code] at large
    refine ⟨large, ?_⟩
    rw [encodeChar_of_ge_10000 large, code]
    simp only [List.cons.injEq, ← UInt8.toNat_inj, UInt8.toNat_ofNat', and_true]
    omega
  · rintro ⟨large, octets⟩
    simp only [encodeChar_of_ge_10000 large, List.cons.injEq, ← UInt8.toNat_inj,
      UInt8.toNat_ofNat', and_true] at octets
    have valid := toNat_bounds character
    refine ⟨by omega, ?_⟩
    rw [← Char.ofNat_toNat character]
    congr 1
    omega

theorem two?_eq_none {lead second : UInt8} (large : 0xE0 ≤ lead.toNat) :
    two? lead second = none := by
  simp only [two?, ite_eq_right_iff, Bool.and_eq_true, decide_eq_true_eq,
    UInt8.le_iff_toNat_le, UInt8.reduceToNat]
  omega

theorem three?_eq_none {lead second third : UInt8} (large : 0xF0 ≤ lead.toNat) :
    three? lead second third = none := by
  simp only [three?, ite_eq_right_iff, Bool.and_eq_true, decide_eq_true_eq,
    UInt8.le_iff_toNat_le, UInt8.reduceToNat]
  omega

/-- The four lengths of an encoding, each with the form that decodes it. -/
theorem encodeChar_cases (character : Char) :
    (character.toNat < 0x80 ∧
      String.utf8EncodeChar character = [UInt8.ofNat character.toNat]) ∨
    (∃ lead second, String.utf8EncodeChar character = [lead, second] ∧
      0xC0 ≤ lead.toNat ∧ two? lead second = some character) ∨
    (∃ lead second third, String.utf8EncodeChar character = [lead, second, third] ∧
      0xE0 ≤ lead.toNat ∧ three? lead second third = some character) ∨
    (∃ lead second third fourth,
      String.utf8EncodeChar character = [lead, second, third, fourth] ∧
      0xF0 ≤ lead.toNat ∧ four? lead second third fourth = some character) := by
  by_cases ascii : character.toNat < 0x80
  · exact .inl ⟨ascii, encodeChar_of_lt_80 ascii⟩
  have large : 0x80 ≤ character.toNat := Nat.le_of_not_lt ascii
  by_cases small : character.toNat < 0x800
  · have octets := encodeChar_of_lt_800 large small
    refine .inr (.inl ⟨_, _, octets, ?_, two?_eq_some_iff.2 ⟨large, small, octets.symm⟩⟩)
    rw [UInt8.toNat_ofNat']
    omega
  have larger : 0x800 ≤ character.toNat := Nat.le_of_not_lt small
  by_cases medium : character.toNat < 0x10000
  · have octets := encodeChar_of_lt_10000 larger medium
    refine .inr (.inr (.inl ⟨_, _, _, octets, ?_,
      three?_eq_some_iff.2 ⟨larger, medium, octets.symm⟩⟩))
    rw [UInt8.toNat_ofNat']
    omega
  · have largest : 0x10000 ≤ character.toNat := Nat.le_of_not_lt medium
    have octets := encodeChar_of_ge_10000 largest
    refine .inr (.inr (.inr ⟨_, _, _, _, octets, ?_,
      four?_eq_some_iff.2 ⟨largest, octets.symm⟩⟩))
    rw [UInt8.toNat_ofNat']
    omega

theorem continuations_of_two? {lead second : UInt8} {character : Char}
    (taken : two? lead second = some character) : isContinuation second = true := by
  simp only [two?, Option.ite_none_right_eq_some, Bool.and_eq_true] at taken
  exact taken.1.1.2

theorem continuations_of_three? {lead second third : UInt8} {character : Char}
    (taken : three? lead second third = some character) :
    isContinuation second = true ∧ isContinuation third = true := by
  simp only [three?, Option.ite_none_right_eq_some, Bool.and_eq_true] at taken
  exact ⟨taken.1.1.1.1.2, taken.1.1.1.2⟩

theorem continuations_of_four? {lead second third fourth : UInt8} {character : Char}
    (taken : four? lead second third fourth = some character) :
    isContinuation second = true ∧ isContinuation third = true
      ∧ isContinuation fourth = true := by
  simp only [four?, Option.ite_none_right_eq_some, Bool.and_eq_true] at taken
  exact ⟨taken.1.1.1.1.1.2, taken.1.1.1.1.2, taken.1.1.1.2⟩

/-- An encoding is a lead octet and then only continuation octets. The lead is the
code of a character of ASCII; of every other character it is none of ASCII. -/
theorem encodeChar_shape (character : Char) :
    ∃ lead continuations, String.utf8EncodeChar character = lead :: continuations ∧
      (lead.toNat = character.toNat ∧ character.toNat < 0x80 ∨
        0x80 ≤ character.toNat ∧ 0xC0 ≤ lead.toNat) ∧
      ∀ octet ∈ continuations, isContinuation octet = true := by
  by_cases ascii : character.toNat < 0x80
  · refine ⟨_, _, encodeChar_of_lt_80 ascii, .inl ⟨?_, ascii⟩, List.forall_mem_nil _⟩
    rw [UInt8.toNat_ofNat']
    omega
  have large : 0x80 ≤ character.toNat := Nat.le_of_not_lt ascii
  obtain ⟨small, _⟩ | ⟨lead, second, octets, above, taken⟩
    | ⟨lead, second, third, octets, above, taken⟩
    | ⟨lead, second, third, fourth, octets, above, taken⟩ := encodeChar_cases character
  · exact absurd small ascii
  · refine ⟨lead, _, octets, .inr ⟨large, above⟩, ?_⟩
    simp [continuations_of_two? taken]
  · refine ⟨lead, _, octets, .inr ⟨large, Nat.le_trans (by decide) above⟩, ?_⟩
    simp [continuations_of_three? taken]
  · refine ⟨lead, _, octets, .inr ⟨large, Nat.le_trans (by decide) above⟩, ?_⟩
    simp [continuations_of_four? taken]

/-- A character of ASCII is its own octet; of every other character no octet is of ASCII. -/
theorem encodeChar_octets (character : Char) :
    (character.toNat < 0x80 ∧
      String.utf8EncodeChar character = [UInt8.ofNat character.toNat]) ∨
    (0x80 ≤ character.toNat ∧ String.utf8EncodeChar character ≠ [] ∧
      ∀ octet ∈ String.utf8EncodeChar character, 0x80 ≤ octet.toNat) := by
  obtain ⟨lead, continuations, octets, ⟨_, ascii⟩ | ⟨large, above⟩, continued⟩ :=
    encodeChar_shape character
  · exact .inl ⟨ascii, encodeChar_of_lt_80 ascii⟩
  · refine .inr ⟨large, by simp [octets], ?_⟩
    rw [octets, List.forall_mem_cons]
    exact ⟨by omega, fun octet within => (isContinuation_iff.1 (continued octet within)).1⟩

/-- A class of octets is a class of characters if the two agree on ASCII, and if outside of
it both contain everything or both contain nothing. -/
theorem forall_mem_encode_iff {octetClass : UInt8 → Bool} {charClass : Char → Prop}
    (others : Bool)
    (ascii : ∀ code < 0x80, octetClass (UInt8.ofNat code) = true ↔ charClass (Char.ofNat code))
    (octets : ∀ octet : UInt8, 0x80 ≤ octet.toNat → octetClass octet = others)
    (characters : ∀ character : Char, 0x80 ≤ character.toNat →
      (charClass character ↔ others = true)) {text : String} :
    (∀ octet ∈ encode text, octetClass octet = true) ↔
      ∀ character ∈ text.toList, charClass character := by
  rw [encode, encodeChars, List.forall_mem_flatMap]
  refine forall₂_congr fun character _ => ?_
  obtain ⟨small, octet⟩ | ⟨large, nonempty, above⟩ := encodeChar_octets character
  · have agree := ascii character.toNat small
    rwa [Char.ofNat_toNat, ← List.forall_mem_singleton (p := fun octet => octetClass octet = true),
      ← octet] at agree
  · rw [characters character large]
    constructor
    · intro all
      obtain ⟨octet, within⟩ := List.exists_mem_of_ne_nil _ nonempty
      rw [← octets octet (above octet within)]
      exact all octet within
    · intro whole octet within
      rw [octets octet (above octet within), whole]

/-! ## The decoder on a sequence -/

theorem not_lt_80 {lead : UInt8} (large : 0xC0 ≤ lead.toNat) : ¬ lead < 0x80 := by
  simp only [UInt8.lt_iff_toNat_lt, UInt8.reduceToNat]
  omega

/-- Decoding takes the encoding of a character as that character. -/
theorem decodeFrom_encodeChar (decoded : List Char) (valid : Nat) (character : Char)
    (rest : Bytes) :
    decodeFrom decoded valid (String.utf8EncodeChar character ++ rest)
      = decodeFrom (character :: decoded) (valid + (String.utf8EncodeChar character).length)
          rest := by
  obtain ⟨small, octets⟩ | ⟨lead, second, octets, above, taken⟩
    | ⟨lead, second, third, octets, above, taken⟩
    | ⟨lead, second, third, fourth, octets, above, taken⟩ := encodeChar_cases character
  · have lead : (UInt8.ofNat character.toNat).toNat = character.toNat := by
      rw [UInt8.toNat_ofNat']
      omega
    rw [octets, List.singleton_append, decodeFrom.eq_def]
    simp only [UInt8.lt_iff_toNat_lt, lead, UInt8.reduceToNat, small, if_true,
      Char.ofNat_toNat, List.length_singleton]
  · rw [octets, decodeFrom.eq_def]
    simp only [List.cons_append, List.nil_append, not_lt_80 above, if_false, taken,
      List.length_cons, List.length_nil]
  · have notTwo : two? lead second = none := two?_eq_none above
    rw [octets, decodeFrom.eq_def]
    simp only [List.cons_append, List.nil_append, not_lt_80 (Nat.le_trans (by decide) above),
      if_false, notTwo, taken, List.length_cons, List.length_nil]
  · have notTwo : two? lead second = none := two?_eq_none (Nat.le_trans (by decide) above)
    have notThree : three? lead second third = none := three?_eq_none above
    rw [octets, decodeFrom.eq_def]
    simp only [List.cons_append, List.nil_append, not_lt_80 (Nat.le_trans (by decide) above),
      if_false, notTwo, notThree, taken, List.length_cons, List.length_nil]

theorem decodeFrom_encodeChars (decoded : List Char) (valid : Nat) (characters : List Char) :
    decodeFrom decoded valid (encodeChars characters) = .ok (decoded.reverse ++ characters) := by
  induction characters generalizing decoded valid with
  | nil => simp [decodeFrom]
  | cons character characters ih =>
    rw [encodeChars_cons, decodeFrom_encodeChar, ih]
    simp

theorem encodeChar_ofNat_of_lt_80 {lead : UInt8} (ascii : lead < 0x80) :
    String.utf8EncodeChar (Char.ofNat lead.toNat) = [lead] := by
  simp only [UInt8.lt_iff_toNat_lt, UInt8.reduceToNat] at ascii
  have code := toNat_ofNat_of_valid lead.toNat (by left; omega)
  rw [encodeChar_of_lt_80 (by omega), code, UInt8.ofNat_toNat]

/-- The encoding of a character in front of what decoding takes. -/
theorem encodeChars_extend {decoded characters : List Char} {character : Char}
    {octets rest : Bytes} (one : octets = String.utf8EncodeChar character)
    (later : ∃ more, rest = encodeChars more ∧
      characters = (character :: decoded).reverse ++ more) :
    ∃ more, octets ++ rest = encodeChars more ∧ characters = decoded.reverse ++ more := by
  obtain ⟨more, rfl, rfl⟩ := later
  exact ⟨character :: more, by rw [encodeChars_cons, one], by simp⟩

/-- What decoding takes is the encoding of the characters that it adds. -/
theorem decodeFrom_sound {decoded characters : List Char} {valid : Nat} {octets : Bytes}
    (ok : decodeFrom decoded valid octets = .ok characters) :
    ∃ more, octets = encodeChars more ∧ characters = decoded.reverse ++ more := by
  fun_induction decodeFrom decoded valid octets with
  | case1 decoded valid =>
    cases ok
    exact ⟨[], rfl, (List.append_nil _).symm⟩
  | case2 decoded valid lead rest ascii ih =>
    exact encodeChars_extend (encodeChar_ofNat_of_lt_80 ascii).symm (ih ok)
  | case4 decoded valid lead notAscii second rest character taken ih =>
    exact encodeChars_extend (two?_eq_some_iff.1 taken).2.2 (ih ok)
  | case6 decoded valid lead notAscii second notTwo third rest character taken ih =>
    exact encodeChars_extend (three?_eq_some_iff.1 taken).2.2 (ih ok)
  | case8 decoded valid lead notAscii second notTwo third notThree fourth rest character taken ih =>
    exact encodeChars_extend (four?_eq_some_iff.1 taken).2 (ih ok)
  | case3 => cases ok
  | case5 => cases ok
  | case7 => cases ok
  | case9 => cases ok

/-- The decoder takes exactly the encodings of texts. -/
theorem decode_eq_ok_iff {octets : Bytes} {text : String} :
    decode octets = .ok text ↔ octets = encode text := by
  constructor
  · intro ok
    unfold decode at ok
    cases decoding : decodeFrom [] 0 octets with
    | error valid =>
      rw [decoding] at ok
      cases ok
    | ok characters =>
      rw [decoding] at ok
      obtain ⟨more, rfl, rfl⟩ := decodeFrom_sound decoding
      cases ok
      rw [encode_ofList]
  · rintro rfl
    rw [decode, encode, decodeFrom_encodeChars, List.reverse_nil, List.nil_append]
    exact congrArg Except.ok String.ofList_toList

theorem decode?_eq_some_iff {octets : Bytes} {text : String} :
    decode? octets = some text ↔ octets = encode text := by
  rw [← decode_eq_ok_iff, decode?]
  cases decode octets <;> simp [Except.toOption]

/-! ## Well-formed sequences -/

/-- Octets that encode some text. -/
def WellFormed (octets : Bytes) : Prop :=
  ∃ text, octets = encode text

theorem decode?_eq_none_iff {octets : Bytes} : decode? octets = none ↔ ¬ WellFormed octets := by
  simp only [Option.eq_none_iff_forall_ne_some, ne_eq, decode?_eq_some_iff, WellFormed, not_exists]

theorem wellFormed_iff {octets : Bytes} :
    WellFormed octets ↔ ∃ characters, octets = encodeChars characters := by
  constructor
  · rintro ⟨text, rfl⟩
    exact ⟨text.toList, rfl⟩
  · rintro ⟨characters, rfl⟩
    exact ⟨String.ofList characters, (encode_ofList characters).symm⟩

theorem WellFormed.append {left right : Bytes} (leftFormed : WellFormed left)
    (rightFormed : WellFormed right) : WellFormed (left ++ right) := by
  rw [wellFormed_iff] at *
  obtain ⟨leftCharacters, rfl⟩ := leftFormed
  obtain ⟨rightCharacters, rfl⟩ := rightFormed
  exact ⟨leftCharacters ++ rightCharacters, (List.flatMap_append).symm⟩

theorem wellFormed_encodeChar (character : Char) :
    WellFormed (String.utf8EncodeChar character) :=
  wellFormed_iff.2 ⟨[character], (List.append_nil _).symm⟩

theorem wellFormed_nil : WellFormed [] :=
  wellFormed_iff.2 ⟨[], rfl⟩

theorem WellFormed.cons {octet : UInt8} {rest : Bytes} (ascii : octet < 0x80)
    (formed : WellFormed rest) : WellFormed (octet :: rest) := by
  have one := wellFormed_encodeChar (Char.ofNat octet.toNat)
  rw [encodeChar_ofNat_of_lt_80 ascii] at one
  exact one.append formed

theorem wellFormed_of_ascii {octets : Bytes} (ascii : ∀ octet ∈ octets, octet < 0x80) :
    WellFormed octets := by
  induction octets with
  | nil => exact wellFormed_nil
  | cons octet rest ih =>
    rw [List.forall_mem_cons] at ascii
    exact (ih ascii.2).cons ascii.1

/-- No encoding of a character is the beginning of the encoding of another. -/
theorem encodeChar_append_inj {left right : Char} {leftRest rightRest : Bytes}
    (same : String.utf8EncodeChar left ++ leftRest = String.utf8EncodeChar right ++ rightRest) :
    left = right ∧ leftRest = rightRest := by
  have octets := congrArg List.toByteArray same
  rw [List.toByteArray_append, List.toByteArray_append] at octets
  have decoded : some left = some right := by
    rw [← ByteArray.utf8DecodeChar?_utf8EncodeChar_append (c := left), octets,
      ByteArray.utf8DecodeChar?_utf8EncodeChar_append]
  cases decoded
  exact ⟨rfl, List.append_cancel_left same⟩

end Replay.Utf8
