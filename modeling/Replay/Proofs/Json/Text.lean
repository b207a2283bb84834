import Replay.Proofs.Json.Reading

/-!
# Reading texts

The reader of texts takes exactly the quoted texts of the grammar:
`takes_text_iff`. The reader collects octets first and decodes them afterwards, so
the proof goes through `Raw`, which says what is collected: octets that stand for
themselves, and the encodings of escaped characters. An encoding never starts with
a continuation octet, hence no escape can complete a character that raw octets began.
-/

namespace Replay.Json

open Grammar (HexDigit HexUnit Escape Letter Letters)

/-! ## Hexadecimal digits -/

theorem hexValue?_eq_some_iff {octet : UInt8} {value : Nat} :
    hexValue? octet = some value ↔ HexDigit octet value := by
  unfold hexValue?
  simp only [Bool.and_eq_true, decide_eq_true_eq, UInt8.le_iff_toNat_le, UInt8.reduceToNat]
  constructor
  · intro digit
    split at digit
    · have code := Option.some.inj digit
      exact .decimal (by omega) (by omega)
    · split at digit
      · have code := Option.some.inj digit
        exact .capital (by omega) (by omega) (by omega)
      · split at digit
        · have code := Option.some.inj digit
          exact .little (by omega) (by omega) (by omega)
        · cases digit
  · intro digit
    cases digit with
    | decimal small code =>
      rw [if_pos (by omega), Option.some.injEq]
      omega
    | capital large small code =>
      rw [if_neg (by omega), if_pos (by omega), Option.some.injEq]
      omega
    | little large small code =>
      rw [if_neg (by omega), if_neg (by omega), if_pos (by omega), Option.some.injEq]
      omega

theorem Grammar.HexDigit.small {octet : UInt8} {value : Nat} (digit : HexDigit octet value) :
    value < 16 := by
  cases digit with
  | decimal small _ => omega
  | capital _ small _ => exact small
  | little _ small _ => exact small

theorem Grammar.HexUnit.small {digits : Bytes} {unit : Nat} (written : HexUnit digits unit) :
    unit < 0x10000 := by
  cases written with
  | digits highest high low lowest =>
    have := highest.small
    have := high.small
    have := low.small
    have := lowest.small
    omega

theorem hexUnit?_eq_some_iff {first second third fourth : UInt8} {unit : Nat} :
    hexUnit? first second third fourth = some unit ↔
      HexUnit [first, second, third, fourth] unit := by
  simp only [hexUnit?, Option.bind_eq_bind, Option.bind_eq_some_iff, hexValue?_eq_some_iff,
    Option.pure_def, Option.some.injEq]
  constructor
  · rintro ⟨a, highest, b, high, c, low, d, lowest, rfl⟩
    have unit := HexUnit.digits highest high low lowest
    rwa [show a * 0x1000 + b * 0x100 + c * 0x10 + d = ((a * 16 + b) * 16 + c) * 16 + d by omega]
      at unit
  · intro unit
    cases unit with
    | digits highest high low lowest =>
      exact ⟨_, highest, _, high, _, low, _, lowest, by omega⟩

theorem takes_hexUnit_iff {ending : Ending} {input rest : Bytes} {unit : Nat} :
    Takes (hexUnit ending input) unit rest ↔
      ∃ digits, HexUnit digits unit ∧ input = digits ++ rest := by
  constructor
  · intro takes
    unfold hexUnit at takes
    split at takes
    · next first second third fourth left =>
      split at takes
      · next value digits =>
        obtain ⟨rfl, rfl⟩ := takes_mk.1 takes
        exact ⟨_, hexUnit?_eq_some_iff.1 digits, rfl⟩
      · exact absurd takes not_takes_error
    · exact absurd takes not_takes_error
  · rintro ⟨digits, written, rfl⟩
    cases written with
    | digits highest high low lowest =>
      have value := hexUnit?_eq_some_iff.2 (.digits highest high low lowest)
      simp [hexUnit, value]

/-! ## Escapes -/

theorem takes_pairLetter_iff {ending : Ending} {letter : UInt8} {input rest : Bytes} :
    Takes (pairLetter ending letter input) () rest ↔ input = letter :: rest := by
  cases input with
  | nil => simp [pairLetter]
  | cons octet left =>
    by_cases same : octet = letter
    · simp [pairLetter, same]
    · simp [pairLetter, same]

/-- The readers that a trailing unit consists of. -/
theorem takes_trailingUnit_parts {ending : Ending} {input rest : Bytes} {unit : Nat} :
    Takes (trailingUnit ending input) unit rest ↔
      ∃ behindBackslash behindLetter, Takes (pairLetter ending 0x5C input) () behindBackslash ∧
        Takes (pairLetter ending 0x75 behindBackslash) () behindLetter ∧
        Takes (hexUnit ending behindLetter) unit rest ∧ isTrailingUnit unit = true := by
  constructor
  · intro takes
    unfold trailingUnit at takes
    split at takes
    · exact absurd takes not_takes_error
    · next backslash first =>
      split at takes
      · exact absurd takes not_takes_error
      · next letter second =>
        split at takes
        · exact absurd takes not_takes_error
        · next taken third =>
          split at takes
          · next trailing =>
            obtain ⟨rfl, rfl⟩ := takes_mk.1 takes
            exact ⟨_, _, takes_of_eq first, takes_of_eq second, takes_of_eq third, trailing⟩
          · exact absurd takes not_takes_error
  · rintro ⟨_, _, ⟨_, first⟩, ⟨_, second⟩, ⟨_, third⟩, trailing⟩
    simp [trailingUnit, first, second, third, trailing]

theorem takes_trailingUnit_iff {ending : Ending} {input rest : Bytes} {unit : Nat} :
    Takes (trailingUnit ending input) unit rest ↔
      isTrailingUnit unit = true ∧
        ∃ digits, HexUnit digits unit ∧ input = 0x5C :: 0x75 :: (digits ++ rest) := by
  simp only [takes_trailingUnit_parts, takes_pairLetter_iff, takes_hexUnit_iff]
  constructor
  · rintro ⟨_, _, rfl, rfl, ⟨digits, written, rfl⟩, trailing⟩
    exact ⟨trailing, digits, written, rfl⟩
  · rintro ⟨trailing, digits, written, rfl⟩
    exact ⟨_, _, rfl, rfl, ⟨digits, written, rfl⟩, trailing⟩

/-- The readers that a long escape consists of. -/
theorem takes_longEscape_parts {ending : Ending} {input octets rest : Bytes} :
    Takes (longEscape ending input) octets rest ↔
      ∃ unit behindUnit, Takes (hexUnit ending input) unit behindUnit ∧
        isTrailingUnit unit = false ∧
        ((isLeadingUnit unit = false ∧ octets = codeOctets unit ∧ rest = behindUnit) ∨
          (isLeadingUnit unit = true ∧ ∃ trailing,
            Takes (trailingUnit ending behindUnit) trailing rest ∧
              octets = codeOctets (pairCode unit trailing))) := by
  constructor
  · intro takes
    unfold longEscape at takes
    split at takes
    · exact absurd takes not_takes_error
    · next unit first =>
      split at takes
      · exact absurd takes not_takes_error
      · next notTrailing =>
        refine ⟨_, _, takes_of_eq first, Bool.eq_false_iff.2 notTrailing, ?_⟩
        split at takes
        · next leading =>
          split at takes
          · exact absurd takes not_takes_error
          · next trailing second =>
            obtain ⟨rfl, rfl⟩ := takes_mk.1 takes
            exact .inr ⟨leading, _, takes_of_eq second, rfl⟩
        · next notLeading =>
          obtain ⟨rfl, rfl⟩ := takes_mk.1 takes
          exact .inl ⟨Bool.eq_false_iff.2 notLeading, rfl, rfl⟩
  · rintro ⟨unit, _, ⟨_, first⟩, notTrailing, alone | pair⟩
    · obtain ⟨notLeading, rfl, rfl⟩ := alone
      simp [longEscape, first, notTrailing, notLeading]
    · obtain ⟨leading, trailing, ⟨_, second⟩, same⟩ := pair
      rw [same]
      simp [longEscape, first, notTrailing, leading, second]

/-! ### Units and characters -/

theorem isTrailingUnit_iff {unit : Nat} :
    isTrailingUnit unit = true ↔ 0xDC00 ≤ unit ∧ unit ≤ 0xDFFF := by
  simp [isTrailingUnit]

theorem isLeadingUnit_iff {unit : Nat} :
    isLeadingUnit unit = true ↔ 0xD800 ≤ unit ∧ unit ≤ 0xDBFF := by
  simp [isLeadingUnit]

/-- The code of a pair is that of a character beyond the 16-bit units, and the
pair is the one that belongs to the character. -/
theorem pairCode_character {leading trailing : Nat} (first : isLeadingUnit leading = true)
    (second : isTrailingUnit trailing = true) :
    ∃ character : Char, character.toNat = pairCode leading trailing ∧
      0x10000 ≤ character.toNat ∧
      leading = 0xD800 + (character.toNat - 0x10000) / 0x400 ∧
      trailing = 0xDC00 + (character.toNat - 0x10000) % 0x400 := by
  rw [isLeadingUnit_iff] at first
  rw [isTrailingUnit_iff] at second
  have code : (Char.ofNat (pairCode leading trailing)).toNat = pairCode leading trailing :=
    Utf8.toNat_ofNat_of_valid _ (by right; unfold pairCode; omega)
  refine ⟨_, code, ?_⟩
  rw [code]
  unfold pairCode
  omega

/-- A unit that is no surrogate is the code of a character. -/
theorem unit_character {unit : Nat} (small : unit < 0x10000)
    (notTrailing : isTrailingUnit unit = false) (notLeading : isLeadingUnit unit = false) :
    (Char.ofNat unit).toNat = unit := by
  rw [← Bool.not_eq_true, isTrailingUnit_iff] at notTrailing
  rw [← Bool.not_eq_true, isLeadingUnit_iff] at notLeading
  exact Utf8.toNat_ofNat_of_valid _ (by unfold Nat.isValidChar; omega)

/-- The escapes behind the letter of long ones. -/
theorem escape_long_iff {character : Char} {written : Bytes} :
    Escape character (0x5C :: 0x75 :: written) ↔
      HexUnit written character.toNat ∨
        (0x10000 ≤ character.toNat ∧ ∃ leading trailing,
          HexUnit leading (0xD800 + (character.toNat - 0x10000) / 0x400) ∧
          HexUnit trailing (0xDC00 + (character.toNat - 0x10000) % 0x400) ∧
          written = leading ++ 0x5C :: 0x75 :: trailing) := by
  constructor
  · intro escape
    generalize same : 0x5C :: 0x75 :: written = octets at escape
    cases escape with
    | short listed =>
      simp only [List.cons.injEq, true_and] at same
      obtain ⟨rfl, _⟩ := same
      simp [Grammar.shortEscapes] at listed
    | unit unit =>
      simp only [List.cons.injEq, true_and] at same
      rw [same]
      exact .inl unit
    | pair beyond first second =>
      simp only [List.cons_append, List.cons.injEq, true_and] at same
      exact .inr ⟨beyond, _, _, first, second, same⟩
  · rintro (unit | ⟨beyond, leading, trailing, first, second, rfl⟩)
    · exact .unit unit
    · exact .pair beyond first second

theorem takes_longEscape_iff {ending : Ending} {input octets rest : Bytes} :
    Takes (longEscape ending input) octets rest ↔
      ∃ character written, Escape character (0x5C :: 0x75 :: written) ∧
        octets = String.utf8EncodeChar character ∧ input = written ++ rest := by
  simp only [takes_longEscape_parts, takes_hexUnit_iff, takes_trailingUnit_iff]
  constructor
  · rintro ⟨unit, _, ⟨digits, written, rfl⟩, notTrailing, alone | pair⟩
    · obtain ⟨notLeading, rfl, rfl⟩ := alone
      refine ⟨Char.ofNat unit, digits, .unit ?_, rfl, rfl⟩
      rwa [unit_character written.small notTrailing notLeading]
    · obtain ⟨leading, trailing, ⟨isTrailing, others, writtenOthers, rfl⟩, same⟩ := pair
      obtain ⟨character, code, beyond, first, second⟩ := pairCode_character leading isTrailing
      rw [first] at written
      rw [second] at writtenOthers
      refine ⟨character, _, .pair beyond written writtenOthers, ?_, by simp⟩
      rw [same, ← code, codeOctets, Char.ofNat_toNat]
  · rintro ⟨character, written, escape, rfl, rfl⟩
    have scalar := Utf8.toNat_bounds character
    rw [escape_long_iff] at escape
    rcases escape with unit | ⟨beyond, leading, trailing, first, second, rfl⟩
    · refine ⟨_, _, ⟨written, unit, rfl⟩, ?_, .inl ⟨?_, ?_, rfl⟩⟩
      · rw [← Bool.not_eq_true, isTrailingUnit_iff]
        omega
      · rw [← Bool.not_eq_true, isLeadingUnit_iff]
        omega
      · rw [codeOctets, Char.ofNat_toNat]
    · refine ⟨_, _, ⟨leading, first, by simp⟩, ?_, .inr ⟨?_, _, ⟨?_, trailing, second, rfl⟩, ?_⟩⟩
      · rw [← Bool.not_eq_true, isTrailingUnit_iff]
        omega
      · rw [isLeadingUnit_iff]
        omega
      · rw [isTrailingUnit_iff]
        omega
      · have code : pairCode (0xD800 + (character.toNat - 0x10000) / 0x400)
            (0xDC00 + (character.toNat - 0x10000) % 0x400) = character.toNat := by
          unfold pairCode
          omega
        rw [code, codeOctets, Char.ofNat_toNat]

/-! ### Short escapes -/

theorem shortEscape?_of_listed :
    ∀ listed ∈ Grammar.shortEscapes,
      (shortEscape? listed.1).map (fun octet => [octet])
        = some (String.utf8EncodeChar listed.2) := by
  decide

theorem listed_of_shortEscape? {letter octet : UInt8} (short : shortEscape? letter = some octet) :
    ∃ character, (letter, character) ∈ Grammar.shortEscapes := by
  by_cases listed : letter ∈ Grammar.shortEscapes.map Prod.fst
  · obtain ⟨⟨_, character⟩, pair, rfl⟩ := List.mem_map.1 listed
    exact ⟨character, pair⟩
  · simp only [Grammar.shortEscapes, List.map_cons, List.map_nil, List.mem_cons,
      List.not_mem_nil, or_false, not_or] at listed
    simp [shortEscape?, listed] at short

theorem not_short_long : shortEscape? 0x75 = none := by
  decide

/-- An escape is a backslash and then a short letter, or the letter of long ones. -/
theorem escape_shape {character : Char} {octets : Bytes} (escape : Escape character octets) :
    (∃ letter, octets = [0x5C, letter] ∧ (letter, character) ∈ Grammar.shortEscapes) ∨
      ∃ written, octets = 0x5C :: 0x75 :: written := by
  cases escape with
  | short listed => exact .inl ⟨_, rfl, listed⟩
  | unit unit => exact .inr ⟨_, rfl⟩
  | pair beyond first second => exact .inr ⟨_, rfl⟩

theorem takes_escape_iff {ending : Ending} {input octets rest : Bytes} :
    Takes (escape ending input) octets rest ↔
      ∃ character written, Escape character (0x5C :: written) ∧
        octets = String.utf8EncodeChar character ∧ input = written ++ rest := by
  constructor
  · intro takes
    cases input with
    | nil => exact absurd takes not_takes_error
    | cons letter left =>
      unfold escape at takes
      dsimp only at takes
      split at takes
      · next octet short =>
        obtain ⟨rfl, rfl⟩ := takes_mk.1 takes
        obtain ⟨character, listed⟩ := listed_of_shortEscape? short
        have encoded := shortEscape?_of_listed _ listed
        simp only [short, Option.map_some, Option.some.injEq] at encoded
        exact ⟨character, [letter], .short listed, encoded, rfl⟩
      · split at takes
        · next long =>
          split at takes
          · exact absurd takes not_takes_error
          · next taken same =>
            obtain ⟨rfl, rfl⟩ := takes_mk.1 takes
            obtain ⟨character, written, escape, encoded, parts⟩ :=
              takes_longEscape_iff.1 (takes_of_eq same)
            rw [long]
            exact ⟨character, 0x75 :: written, escape, encoded, congrArg _ parts⟩
        · exact absurd takes not_takes_error
  · rintro ⟨character, written, escape, rfl, rfl⟩
    rcases escape_shape escape with ⟨letter, same, listed⟩ | ⟨others, same⟩
    · obtain rfl : written = [letter] := (List.cons.inj same).2
      have encoded := shortEscape?_of_listed _ listed
      obtain ⟨octet, short, same⟩ := Option.map_eq_some_iff.1 encoded
      rw [← same]
      dsimp only at short
      simp [Json.escape, short]
    · obtain rfl : written = 0x75 :: others := (List.cons.inj same).2
      obtain ⟨shorter, taken⟩ :=
        (@takes_longEscape_iff ending _ _ rest).2 ⟨_, _, escape, rfl, rfl⟩
      simp [Json.escape, not_short_long, taken, Taken.weaken]

/-! ## Octets up to the closing quote -/

/-- What is collected between quotes before it is decoded: octets that stand for
themselves, and the encodings of escaped characters. -/
inductive Raw : Bytes → Bytes → Prop where
  | nil : Raw [] []
  | octet {octet : UInt8} {written collected : Bytes} (printed : 0x20 ≤ octet)
      (noQuote : octet ≠ 0x22) (noBackslash : octet ≠ 0x5C) (more : Raw written collected) :
      Raw (octet :: written) (octet :: collected)
  | escape {character : Char} {octets written collected : Bytes}
      (escape : Escape character octets) (more : Raw written collected) :
      Raw (octets ++ written) (String.utf8EncodeChar character ++ collected)

theorem raw_of_takes {ending : Ending} {bound : Nat} {decoded input octets rest : Bytes}
    {fits : input.length ≤ bound}
    (takes : Takes (octetsToQuote ending decoded input fits) octets rest) :
    ∃ written collected, Raw written collected ∧ input = written ++ 0x22 :: rest ∧
      octets = decoded.reverse ++ collected := by
  fun_induction octetsToQuote ending decoded input fits with
  | case1 => exact absurd takes not_takes_error
  | case2 decoded left fits fewer =>
    obtain ⟨rfl, rfl⟩ := takes_mk.1 takes
    exact ⟨[], [], .nil, rfl, (List.append_nil _).symm⟩
  | case3 => exact absurd takes not_takes_error
  | case4 decoded left taken same shorter fits fewer notQuote _ ih =>
    obtain ⟨written, collected, raw, parts, rfl⟩ := ih takes
    obtain ⟨character, others, escape, encoded, split⟩ :=
      takes_escape_iff.1 (takes_of_eq same)
    refine ⟨0x5C :: others ++ written, _, .escape escape raw, ?_, ?_⟩
    · rw [split, parts]
      simp
    · simp [encoded]
  | case5 => exact absurd takes not_takes_error
  | case6 decoded octet left fits fewer notQuote notBackslash notControl _ ih =>
    obtain ⟨written, collected, raw, rfl, rfl⟩ := ih takes
    refine ⟨octet :: written, octet :: collected, .octet ?_ notQuote notBackslash raw, rfl, ?_⟩
    · exact UInt8.not_lt.1 notControl
    · simp

theorem takes_of_raw {ending : Ending} {written collected rest : Bytes}
    (raw : Raw written collected) :
    ∀ {bound : Nat} (decoded : Bytes) (fits : (written ++ 0x22 :: rest).length ≤ bound),
      Takes (octetsToQuote ending decoded (written ++ 0x22 :: rest) fits)
        (decoded.reverse ++ collected) rest := by
  induction raw with
  | nil =>
    intro bound decoded fits
    unfold octetsToQuote
    simp
  | @octet octet written collected printed noQuote noBackslash more ih =>
    intro bound decoded fits
    have fitsLater : (written ++ 0x22 :: rest).length ≤ bound :=
      Nat.le_of_succ_le fits
    have later := ih (octet :: decoded) fitsLater
    rw [List.reverse_cons, List.append_assoc] at later
    unfold octetsToQuote
    simpa [noQuote, noBackslash, UInt8.not_lt.2 printed] using later
  | @escape character octets written collected escape more ih =>
    intro bound decoded fits
    obtain ⟨others, rfl⟩ : ∃ others, octets = 0x5C :: others := by
      rcases escape_shape escape with ⟨letter, rfl, _⟩ | ⟨written, rfl⟩
      · exact ⟨_, rfl⟩
      · exact ⟨_, rfl⟩
    obtain ⟨shorter, taken⟩ := (@takes_escape_iff ending _ _
      (written ++ 0x22 :: rest)).2 ⟨_, _, escape, rfl, rfl⟩
    have fitsLater : (written ++ 0x22 :: rest).length ≤ bound := by
      simp only [List.cons_append, List.length_cons, List.length_append] at fits ⊢
      omega
    have later := ih ((String.utf8EncodeChar character).reverse ++ decoded) fitsLater
    rw [List.reverse_append, List.reverse_reverse, List.append_assoc] at later
    have shape : 0x5C :: others ++ written ++ 0x22 :: rest
        = 0x5C :: (others ++ (written ++ 0x22 :: rest)) := by
      simp
    -- The bound depends on the octets that are rewritten.
    revert fits
    rw [shape]
    intro fits
    unfold octetsToQuote
    simpa [taken] using later

/-! ## Collected octets and characters -/

theorem Raw.octets_append {octets written collected : Bytes} (raw : Raw written collected)
    (plain : ∀ octet ∈ octets, 0x20 ≤ octet ∧ octet ≠ 0x22 ∧ octet ≠ 0x5C) :
    Raw (octets ++ written) (octets ++ collected) := by
  induction octets with
  | nil => exact raw
  | cons octet octets ih =>
    rw [List.forall_mem_cons] at plain
    obtain ⟨⟨printed, noQuote, noBackslash⟩, others⟩ := plain
    exact .octet printed noQuote noBackslash (ih others)

/-- The octets of a character that stands for itself stand for themselves. -/
theorem plain_encodeChar {character : Char} (printed : 0x20 ≤ character.toNat)
    (noQuote : character ≠ '"') (noBackslash : character ≠ '\\') :
    ∀ octet ∈ String.utf8EncodeChar character,
      0x20 ≤ octet ∧ octet ≠ 0x22 ∧ octet ≠ 0x5C := by
  have quoteCode : character.toNat ≠ 0x22 := fun same => noQuote (Char.toNat_inj.1 same)
  have backslashCode : character.toNat ≠ 0x5C := fun same => noBackslash (Char.toNat_inj.1 same)
  obtain ⟨lead, continuations, octets, first, all⟩ := Utf8.encodeChar_shape character
  rw [octets, List.forall_mem_cons]
  simp only [UInt8.le_iff_toNat_le, ne_eq, ← UInt8.toNat_inj, UInt8.reduceToNat]
  refine ⟨by omega, fun octet member => ?_⟩
  have high := Utf8.isContinuation_iff.1 (all octet member)
  omega

theorem raw_of_letters {characters : List Char} {written : Bytes}
    (letters : Letters characters written) : Raw written (Utf8.encodeChars characters) := by
  induction letters with
  | nil => exact .nil
  | cons one more ih =>
    rw [Utf8.encodeChars_cons]
    cases one with
    | plain printed noQuote noBackslash =>
      exact ih.octets_append (plain_encodeChar printed noQuote noBackslash)
    | escaped escape => exact .escape escape ih

/-- An encoding does not start with a continuation octet. -/
theorem not_isContinuation_head {character : Char} {octet : UInt8} {octets rest : Bytes}
    (encoded : String.utf8EncodeChar character ++ rest = octet :: octets) :
    Utf8.isContinuation octet = false := by
  obtain ⟨lead, continuations, parts, first, _⟩ := Utf8.encodeChar_shape character
  rw [parts] at encoded
  rw [← (List.cons.inj encoded).1, ← Bool.not_eq_true, Utf8.isContinuation_iff]
  omega

/-- Continuation octets are never collected from an escape. -/
theorem Raw.continuations {octets written collected : Bytes}
    (raw : Raw written (octets ++ collected))
    (all : ∀ octet ∈ octets, Utf8.isContinuation octet = true) :
    ∃ more, written = octets ++ more ∧ Raw more collected := by
  induction octets generalizing written with
  | nil => exact ⟨written, rfl, raw⟩
  | cons octet octets ih =>
    rw [List.forall_mem_cons] at all
    generalize same : octet :: octets ++ collected = every at raw
    cases raw with
    | nil => cases same
    | octet _ _ _ later =>
      obtain ⟨rfl, rfl⟩ := List.cons.inj same
      obtain ⟨more, rfl, rawMore⟩ := ih later all.2
      exact ⟨more, rfl, rawMore⟩
    | escape escape later =>
      have head := not_isContinuation_head same.symm
      rw [all.1] at head
      cases head

theorem letters_of_raw {characters : List Char} {written : Bytes}
    (raw : Raw written (Utf8.encodeChars characters)) : Letters characters written := by
  induction characters generalizing written with
  | nil =>
    generalize same : Utf8.encodeChars [] = collected at raw
    cases raw with
    | nil => exact .nil
    | octet => cases same
    | escape escape later =>
      exact absurd (List.append_eq_nil_iff.1 same.symm).1 String.utf8EncodeChar_ne_nil
  | cons character characters ih =>
    rw [Utf8.encodeChars_cons] at raw
    generalize same : String.utf8EncodeChar character ++ Utf8.encodeChars characters
      = collected at raw
    cases raw with
    | nil => exact absurd (List.append_eq_nil_iff.1 same).1 String.utf8EncodeChar_ne_nil
    | octet printed noQuote noBackslash later =>
      obtain ⟨lead, continuations, octets, first, all⟩ := Utf8.encodeChar_shape character
      rw [octets] at same
      obtain ⟨rfl, rfl⟩ := List.cons.inj same
      -- The lead stands for itself, so the continuation octets behind it do as well.
      obtain ⟨more, rfl, rawMore⟩ := later.continuations all
      simp only [UInt8.le_iff_toNat_le, ne_eq, ← UInt8.toNat_inj, UInt8.reduceToNat]
        at printed noQuote noBackslash
      have plain : Letter character (String.utf8EncodeChar character) := by
        refine .plain (by omega) ?_ ?_
        · rintro rfl
          have code : '"'.toNat = 0x22 := rfl
          omega
        · rintro rfl
          have code : '\\'.toNat = 0x5C := rfl
          omega
      rw [octets] at plain
      exact .cons plain (ih rawMore)
    | escape escape later =>
      obtain ⟨rfl, rfl⟩ := Utf8.encodeChar_append_inj same
      exact .cons (.escaped escape) (ih later)

/-! ## Texts -/

/-- A text is taken exactly where letters of it stand before a quote. -/
theorem takes_text_iff {ending : Ending} {input rest : Bytes} {value : String} :
    Takes (text ending input) value rest ↔
      ∃ written, Letters value.toList written ∧ input = written ++ 0x22 :: rest := by
  constructor
  · intro takes
    unfold text at takes
    split at takes
    · exact absurd takes not_takes_error
    · next taken collecting =>
      split at takes
      · next value' decoding =>
        obtain ⟨rfl, rfl⟩ := takes_mk.1 takes
        obtain ⟨written, collected, raw, parts, same⟩ := raw_of_takes (takes_of_eq collecting)
        obtain rfl : taken.value = collected := same
        rw [Utf8.decode_eq_ok_iff.1 decoding] at raw
        exact ⟨written, letters_of_raw raw, parts⟩
      · exact absurd takes not_takes_error
  · rintro ⟨written, letters, rfl⟩
    obtain ⟨shorter, collecting⟩ :=
      @takes_of_raw ending _ _ rest (raw_of_letters letters) _ [] (Nat.le_refl _)
    have decoding : Utf8.decode (Utf8.encodeChars value.toList) = .ok value :=
      Utf8.decode_eq_ok_iff.2 rfl
    simp only [List.reverse_nil, List.nil_append] at collecting
    simp [text, collecting, decoding]

end Replay.Json
