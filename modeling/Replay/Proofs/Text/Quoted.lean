import Mathlib.Data.Nat.Digits.Defs
import Replay.Proofs.Text.Runs
import Replay.Text.Quoted

/-!
# What quoted text gives away

A quoted text can be read in one way only, up to its closing quote, whatever
follows it. And it stays on its line, whatever characters the text inside has:
what would break the line is written as an escape.
-/

namespace Replay.Text

/-! ## Lines -/

/-- A control character is one of the Unicode category Cc. -/
def IsControl (character : Char) : Prop :=
  character.toNat < 0x20 ∨ (0x7F ≤ character.toNat ∧ character.toNat < 0xA0)

/-- The separators of lines and of paragraphs, the Unicode categories Zl and Zp. -/
def IsSeparator (character : Char) : Prop :=
  character.toNat = 0x2028 ∨ character.toNat = 0x2029

instance : DecidablePred IsControl := fun _ => inferInstanceAs (Decidable (_ ∨ _))

instance : DecidablePred IsSeparator := fun _ => inferInstanceAs (Decidable (_ ∨ _))

/-- Text that stays on its line. -/
def InLine (text : List Char) : Prop :=
  ∀ character ∈ text, ¬IsControl character ∧ ¬IsSeparator character

-- Said in full: the instance that is found else tries all characters there are.
instance : DecidablePred InLine := fun text =>
  List.decidableBAll (fun character => ¬IsControl character ∧ ¬IsSeparator character) text

@[simp] theorem inLine_nil : InLine [] :=
  List.forall_mem_nil _

@[simp] theorem inLine_cons {character : Char} {text : List Char} :
    InLine (character :: text) ↔
      (¬IsControl character ∧ ¬IsSeparator character) ∧ InLine text :=
  List.forall_mem_cons

@[simp] theorem inLine_append {text more : List Char} :
    InLine (text ++ more) ↔ InLine text ∧ InLine more :=
  List.forall_mem_append

/-- ASCII characters from the blank to the tilde stay on their line. -/
theorem inLine_of_ascii {text : List Char}
    (ascii : ∀ character ∈ text, 0x20 ≤ character.toNat ∧ character.toNat < 0x7F) :
    InLine text := by
  intro character within
  have bounds := ascii character within
  unfold IsControl IsSeparator
  omega

/-- A character beyond ASCII that is printed as it is stays on its line. -/
theorem inLine_of_printed {character : Char} (beyond : 0x7F < character.toNat)
    (printed : isUnprinted character = false) : InLine [character] := by
  simp only [isUnprinted, inRanges, Bool.or_eq_false_iff, List.any_eq_false,
    Bool.and_eq_true, decide_eq_true_eq, not_and, Nat.not_le] at printed
  have controls := printed.1.1 (0x80, 0xA0) List.mem_cons_self
  have separators := printed.1.2 (0x2028, 0x202F) List.mem_cons_self
  rw [inLine_cons]
  unfold IsControl IsSeparator
  refine ⟨?_, inLine_nil⟩
  omega

/-! ## Hexadecimal digits -/

/-- The last digit is set behind those of the sixteenth part. -/
theorem hexDigits_eq (number : Nat) :
    hexDigits number =
      (if number < 16 then [] else hexDigits (number / 16)) ++ [(number % 16).digitChar] := by
  rw [hexDigits, Nat.toDigits_eq_if (by decide)]
  split
  · next small => rw [Nat.mod_eq_of_lt small, List.nil_append]
  · rfl

theorem hexDigits_ne_nil (number : Nat) : hexDigits number ≠ [] :=
  Nat.toDigits_ne_nil

theorem digitChar_inj : ∀ left < 16, ∀ right < 16,
    Nat.digitChar left = Nat.digitChar right → left = right := by
  decide

theorem exists_digit {number : Nat} {character : Char} (within : character ∈ hexDigits number) :
    ∃ digit < 16, character = Nat.digitChar digit := by
  induction number using Nat.strong_induction_on with
  | _ number ih =>
    rw [hexDigits_eq] at within
    rcases List.mem_append.1 within with front | last
    · split at front
      · exact absurd front List.not_mem_nil
      · exact ih (number / 16) (by omega) front
    · exact ⟨number % 16, Nat.mod_lt number (by decide), List.mem_singleton.1 last⟩

/-- A number has digits of its own. -/
theorem hexDigits_inj {left right : Nat} (same : hexDigits left = hexDigits right) :
    left = right := by
  induction left using Nat.strong_induction_on generalizing right with
  | _ left ih =>
    rw [hexDigits_eq left, hexDigits_eq right] at same
    have front := List.append_inj_left' same rfl
    have last := digitChar_inj (left % 16) (Nat.mod_lt left (by decide)) (right % 16)
      (Nat.mod_lt right (by decide)) (List.singleton_inj.1 (List.append_inj_right' same rfl))
    split at front <;> split at front
    · omega
    · exact absurd front.symm (hexDigits_ne_nil _)
    · exact absurd front (hexDigits_ne_nil _)
    · have sameFront := ih (left / 16) (by omega) front
      omega

/-- Digits end where the brace is that closes an escape. -/
theorem hexDigits_append_inj {left right : Nat} {rest more : List Char}
    (same : hexDigits left ++ '\x7d' :: rest = hexDigits right ++ '\x7d' :: more) :
    left = right ∧ rest = more := by
  -- No digit is a brace, so on both sides the digits end at the first one.
  have digits : ∀ digit < 16, (Nat.digitChar digit != '\x7d') = true := by decide
  have noBrace : ∀ number, ∀ character ∈ hexDigits number, (character != '\x7d') = true := by
    intro number character within
    obtain ⟨digit, small, rfl⟩ := exists_digit within
    exact digits digit small
  have stops : ∀ following, Stops (· != '\x7d') ('\x7d' :: following) := fun _ =>
    stops_cons.2 rfl
  have before := congrArg (List.takeWhile (· != '\x7d')) same
  have behind := congrArg (List.dropWhile (· != '\x7d')) same
  rw [takeWhile_append_of_stops (noBrace left) (stops rest),
    takeWhile_append_of_stops (noBrace right) (stops more)] at before
  rw [dropWhile_append_of_stops (noBrace left) (stops rest),
    dropWhile_append_of_stops (noBrace right) (stops more)] at behind
  exact ⟨hexDigits_inj before, (List.cons.inj behind).2⟩

theorem inLine_hexDigits (number : Nat) : InLine (hexDigits number) := by
  have digits : ∀ digit < 16,
      0x20 ≤ (Nat.digitChar digit).toNat ∧ (Nat.digitChar digit).toNat < 0x7F := by decide
  refine inLine_of_ascii fun character within => ?_
  obtain ⟨digit, small, rfl⟩ := exists_digit within
  exact digits digit small

/-! ## One character inside the quotes -/

/-- The characters with a short escape, each with the letter that stands for it. -/
def shortEscapes : List (Char × Char) :=
  [('"', '"'), ('\\', '\\'), ('\n', 'n'), ('\r', 'r'), ('\t', 't'), ('\x00', '0')]

/-- The ways in which a character may stand inside the quotes. -/
inductive QuotedAs (character : Char) : List Char → Prop where
  | plain (noQuote : character ≠ '"') (noEscape : character ≠ '\\')
      (inLine : InLine [character]) : QuotedAs character [character]
  | short {letter : Char} (listed : (character, letter) ∈ shortEscapes) :
      QuotedAs character ['\\', letter]
  | code : QuotedAs character (codeEscape character)

theorem quotedAs_quotedChar (character : Char) : QuotedAs character (quotedChar character) := by
  unfold quotedChar
  split
  · next quote => exact quote.symm ▸ .short (by decide)
  split
  · next escape => exact escape.symm ▸ .short (by decide)
  split
  · next feed => exact feed.symm ▸ .short (by decide)
  split
  · next back => exact back.symm ▸ .short (by decide)
  split
  · next tab => exact tab.symm ▸ .short (by decide)
  split
  · next zero => exact zero.symm ▸ .short (by decide)
  split
  · exact .code
  next noQuote noEscape _ _ _ _ noControl =>
  simp only [Bool.or_eq_true, decide_eq_true_eq, not_or, Nat.not_lt] at noControl
  split
  · next ascii =>
    refine .plain noQuote noEscape (inLine_of_ascii fun other within => ?_)
    rw [List.mem_singleton.1 within]
    exact ⟨noControl.1, ascii⟩
  split
  · exact .code
  · next printed =>
    exact .plain noQuote noEscape (inLine_of_printed (by omega) (Bool.eq_false_iff.2 printed))

namespace QuotedAs

variable {character other : Char} {written read rest more : List Char}

/-- No character opens with the closing quote. -/
theorem head_ne (quoted : QuotedAs character written) : written ++ rest ≠ '"' :: more := by
  cases quoted with
  | plain noQuote => exact fun same => noQuote (List.cons.inj same).1
  | short => exact fun same => absurd (List.cons.inj same).1 (by decide)
  | code => exact fun same => absurd (List.cons.inj same).1 (by decide)

theorem inLine (quoted : QuotedAs character written) : InLine written := by
  cases quoted with
  | plain _ _ inLine => exact inLine
  | short listed =>
    have letters : ∀ escape ∈ shortEscapes, InLine ['\\', escape.2] := by decide
    exact letters _ listed
  | code =>
    rw [codeEscape]
    simp only [inLine_cons, inLine_append, inLine_hexDigits, inLine_nil]
    decide

theorem short_ne_code {letter : Char} (listed : (character, letter) ∈ shortEscapes) :
    ['\\', letter] ++ rest ≠ codeEscape other ++ more := by
  intro same
  have letters : ∀ escape ∈ shortEscapes, escape.2 ≠ 'u' := by decide
  exact letters _ listed (List.cons.inj (List.cons.inj same).2).1

/-- A character is known from how it stands, and so is where it ends. -/
theorem append_inj (quoted : QuotedAs character written) (quotedOther : QuotedAs other read)
    (same : written ++ rest = read ++ more) : character = other ∧ rest = more := by
  -- What is escaped begins with a backslash, which is never plain; behind it a short escape
  -- has a letter of its own, and `u` is none of them.
  cases quoted with
  | plain _ noEscape =>
    cases quotedOther with
    | plain => exact List.cons.inj same
    | short => exact absurd (List.cons.inj same).1 noEscape
    | code => exact absurd (List.cons.inj same).1 noEscape
  | @short letter listed =>
    cases quotedOther with
    | plain _ noEscape => exact absurd (List.cons.inj same).1.symm noEscape
    | @short letterOther listedOther =>
      obtain ⟨sameLetter, behind⟩ := List.cons.inj (List.cons.inj same).2
      have apart : ∀ left ∈ shortEscapes, ∀ right ∈ shortEscapes,
          left.2 = right.2 → left.1 = right.1 := by decide
      exact ⟨apart _ listed _ listedOther sameLetter, behind⟩
    | code => exact absurd same (short_ne_code listed)
  | code =>
    cases quotedOther with
    | plain _ noEscape => exact absurd (List.cons.inj same).1.symm noEscape
    | short listed => exact absurd same.symm (short_ne_code listed)
    | code =>
      simp only [codeEscape, List.cons_append, List.append_assoc, List.nil_append,
        List.cons.injEq, true_and] at same
      obtain ⟨sameNumber, behind⟩ := hexDigits_append_inj same
      exact ⟨Char.toNat_inj.1 sameNumber, behind⟩

end QuotedAs

/-! ## The text inside the quotes -/

theorem quotedChars_cons (character : Char) (text : List Char) :
    quotedChars (character :: text) = quotedChar character ++ quotedChars text :=
  rfl

theorem quotedChars_append_inj {left right rest more : List Char}
    (same : quotedChars left ++ '"' :: rest = quotedChars right ++ '"' :: more) :
    left = right ∧ rest = more := by
  induction left generalizing right with
  | nil =>
    cases right with
    | nil => exact ⟨rfl, (List.cons.inj same).2⟩
    | cons other right =>
      rw [quotedChars_cons, List.append_assoc] at same
      exact absurd same.symm (quotedAs_quotedChar other).head_ne
  | cons character left ih =>
    cases right with
    | nil =>
      rw [quotedChars_cons, List.append_assoc] at same
      exact absurd same (quotedAs_quotedChar character).head_ne
    | cons other right =>
      rw [quotedChars_cons, quotedChars_cons, List.append_assoc, List.append_assoc] at same
      obtain ⟨rfl, sameTail⟩ :=
        (quotedAs_quotedChar character).append_inj (quotedAs_quotedChar other) same
      obtain ⟨rfl, behind⟩ := ih sameTail
      exact ⟨rfl, behind⟩

theorem toList_quoted (text : String) :
    (quoted text).toList = '"' :: (quotedChars text.toList ++ ['"']) :=
  String.toList_ofList

/-- A quoted text is known from how it stands, and so is where it ends. -/
theorem quoted_append_inj {left right : String} {rest more : List Char}
    (same : (quoted left).toList ++ rest = (quoted right).toList ++ more) :
    left = right ∧ rest = more := by
  simp only [toList_quoted, List.cons_append, List.append_assoc, List.nil_append,
    List.cons.injEq, true_and] at same
  obtain ⟨sameText, behind⟩ := quotedChars_append_inj same
  exact ⟨String.toList_inj.1 sameText, behind⟩

theorem quoted_inj {left right : String} : quoted left = quoted right ↔ left = right := by
  constructor
  · intro same
    have atEnd : (quoted left).toList ++ [] = (quoted right).toList ++ [] := by rw [same]
    exact (quoted_append_inj atEnd).1
  · exact congrArg quoted

/-- A quoted text stays on its line. -/
theorem inLine_quoted (text : String) : InLine (quoted text).toList := by
  have inside : InLine (quotedChars text.toList) := by
    intro character within
    obtain ⟨origin, _, standing⟩ := List.mem_flatMap.1 within
    exact (quotedAs_quotedChar origin).inLine character standing
  rw [toList_quoted]
  simp only [inLine_cons, inLine_append, inside, inLine_nil]
  decide

end Replay.Text
