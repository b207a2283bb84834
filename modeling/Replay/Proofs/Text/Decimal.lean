import Mathlib.Data.Nat.Digits.Defs
import Replay.Proofs.Text.Runs
import Replay.Text.Decimal

/-!
# Decimal numbers

Which texts denote a number, said without the reader: white space, an optional
plus sign, digits, white space, and a value below the bound. Written numbers are
among them.
-/

namespace Replay.Decimal

open Replay.Text

/-- Digits, at least one, with an optional plus sign before them, and their value. -/
inductive Denotes : List Char → Nat → Prop where
  | digits {digits : List Char} (nonempty : digits ≠ [])
      (all : ∀ digit ∈ digits, digit.isDigit = true) : Denotes digits (value digits)
  | signed {digits : List Char} (nonempty : digits ≠ [])
      (all : ∀ digit ∈ digits, digit.isDigit = true) : Denotes ('+' :: digits) (value digits)

/-- Characters of white space. -/
def Blank (text : List Char) : Prop :=
  ∀ character ∈ text, isBlank character = true

/-- A text that denotes a number between white space. -/
def Declares (text : String) (number : Nat) : Prop :=
  ∃ before middle after, text.toList = before ++ middle ++ after ∧ Blank before ∧ Blank after ∧
    Denotes middle number

/-- There may be no white space. -/
theorem Denotes.declares {text : String} {number : Nat} (denotes : Denotes text.toList number) :
    Declares text number :=
  ⟨[], text.toList, [], by simp, by simp [Blank], by simp [Blank], denotes⟩

/-- The value of digits, place by place. -/
theorem value_eq_ofDigits (digits : List Char) :
    value digits = Nat.ofDigits 10 (digits.map digitValue).reverse := by
  rw [Nat.ofDigits_eq_foldr, List.foldr_reverse, List.foldl_map, value]
  congr 1
  funext total digit
  rw [Nat.cast_id, Nat.mul_comm, Nat.add_comm]

/-! ## White space -/

/-- What has no white space at its ends is found again between white space. -/
theorem trim_append {before middle after : List Char} (blankBefore : Blank before)
    (blankAfter : Blank after) (first : Stops isBlank middle)
    (last : Stops isBlank middle.reverse) (nonempty : middle ≠ []) :
    trim (before ++ middle ++ after) = middle := by
  have front : Stops isBlank (middle ++ after) := by
    obtain ⟨next, rest, rfl⟩ := List.exists_cons_of_ne_nil nonempty
    exact stops_cons.2 (stops_cons.1 first)
  have back : Blank after.reverse := fun character within =>
    blankAfter character (List.mem_reverse.1 within)
  rw [trim, List.append_assoc, dropWhile_append_of_stops blankBefore front, List.reverse_append,
    dropWhile_append_of_stops back last, List.reverse_reverse]

/-- What is trimmed away is white space. -/
theorem exists_trim (text : List Char) :
    ∃ before after, text = before ++ trim text ++ after ∧ Blank before ∧ Blank after := by
  refine ⟨text.takeWhile isBlank,
    (((text.dropWhile isBlank).reverse).takeWhile isBlank).reverse, ?_,
    forall_mem_takeWhile isBlank text, ?_⟩
  · rw [trim, List.append_assoc, ← List.reverse_append, List.takeWhile_append_dropWhile,
      List.reverse_reverse, List.takeWhile_append_dropWhile]
  · intro character within
    exact forall_mem_takeWhile isBlank _ character (List.mem_reverse.1 within)

theorem toNat_bounds_of_isDigit {character : Char} (digit : character.isDigit = true) :
    0x30 ≤ character.toNat ∧ character.toNat ≤ 0x39 := by
  simpa [Char.isDigit, UInt32.le_iff_toNat_le] using digit

theorem not_isBlank_of_isDigit {character : Char} (digit : character.isDigit = true) :
    isBlank character = false := by
  obtain ⟨atLeast, atMost⟩ := toNat_bounds_of_isDigit digit
  simp only [isBlank, blankRanges, List.any_cons, List.any_nil, Bool.or_false,
    Bool.or_eq_false_iff, Bool.and_eq_false_iff, decide_eq_false_iff_not]
  omega

/-! ## Reading -/

theorem unsigned_of_digits {digits : List Char}
    (all : ∀ digit ∈ digits, digit.isDigit = true) : unsigned digits = digits := by
  unfold unsigned
  split
  · exact absurd (all '+' List.mem_cons_self) (by decide)
  · rfl

/-- A number is denoted by the digits behind an optional plus sign. -/
theorem denotes_iff {text : List Char} {number : Nat} :
    Denotes text number ↔
      unsigned text ≠ [] ∧ (∀ digit ∈ unsigned text, digit.isDigit = true) ∧
        value (unsigned text) = number := by
  constructor
  · intro denotes
    cases denotes with
    | digits nonempty all =>
      rw [unsigned_of_digits all]
      exact ⟨nonempty, all, rfl⟩
    | signed nonempty all => exact ⟨nonempty, all, rfl⟩
  · rintro ⟨nonempty, all, rfl⟩
    revert nonempty all
    unfold unsigned
    split
    · exact .signed
    · exact .digits

theorem readBelow?_eq_some_iff {bound number : Nat} {text : List Char} :
    readBelow? bound text = some number ↔ Denotes text number ∧ number < bound := by
  rw [denotes_iff]
  simp only [readBelow?, Option.ite_none_right_eq_some, Option.some.injEq, Bool.and_eq_true,
    Bool.not_eq_true', List.isEmpty_eq_false_iff, List.all_eq_true, decide_eq_true_eq]
  constructor
  · rintro ⟨⟨⟨nonempty, all⟩, small⟩, rfl⟩
    exact ⟨⟨nonempty, all, rfl⟩, small⟩
  · rintro ⟨⟨nonempty, all, rfl⟩, small⟩
    exact ⟨⟨⟨nonempty, all⟩, small⟩, rfl⟩

/-- A number is denoted without white space. -/
theorem Denotes.not_blank {text : List Char} {number : Nat} (denotes : Denotes text number) :
    text ≠ [] ∧ ∀ character ∈ text, isBlank character = false := by
  cases denotes with
  | digits nonempty all =>
    exact ⟨nonempty, fun digit within => not_isBlank_of_isDigit (all digit within)⟩
  | signed nonempty all =>
    refine ⟨List.cons_ne_nil _ _, ?_⟩
    intro character within
    rcases List.mem_cons.1 within with rfl | within
    · decide
    · exact not_isBlank_of_isDigit (all character within)

/-- A number is read exactly from the texts that denote it, if it lies below the bound. -/
theorem readTrimmedBelow?_eq_some_iff {bound number : Nat} {text : String} :
    readTrimmedBelow? bound text = some number ↔ Declares text number ∧ number < bound := by
  rw [readTrimmedBelow?, readBelow?_eq_some_iff]
  refine and_congr_left fun _ => ?_
  constructor
  · intro denotes
    obtain ⟨before, after, parts, blankBefore, blankAfter⟩ := exists_trim text.toList
    exact ⟨before, _, after, parts, blankBefore, blankAfter, denotes⟩
  · rintro ⟨before, middle, after, parts, blankBefore, blankAfter, denotes⟩
    obtain ⟨nonempty, noBlank⟩ := denotes.not_blank
    have first : Stops isBlank middle := fun character next =>
      noBlank character (List.mem_of_mem_head? next)
    have last : Stops isBlank middle.reverse := fun character next =>
      noBlank character (List.mem_reverse.1 (List.mem_of_mem_head? next))
    rwa [parts, trim_append blankBefore blankAfter first last nonempty]

/-- What denotes no number below the bound is not read. -/
theorem readTrimmedBelow?_eq_none_iff {bound : Nat} {text : String} :
    readTrimmedBelow? bound text = none ↔ ∀ number, Declares text number → bound ≤ number := by
  rw [Option.eq_none_iff_forall_ne_some]
  simp only [ne_eq, readTrimmedBelow?_eq_some_iff, not_and, Nat.not_lt]

/-- A text denotes at most one number. -/
theorem Declares.unique {text : String} {number other : Nat} (declares : Declares text number)
    (declaresOther : Declares text other) : number = other := by
  -- Both are read below a bound that is above both.
  have read := readTrimmedBelow?_eq_some_iff.2
    ⟨declares, Nat.lt_succ_of_le (Nat.le_max_left number other)⟩
  have readOther := readTrimmedBelow?_eq_some_iff.2
    ⟨declaresOther, Nat.lt_succ_of_le (Nat.le_max_right number other)⟩
  exact Option.some.inj (read.symm.trans readOther)

/-! ## Writing -/

theorem value_eq_ofDigitChars (digits : List Char) :
    value digits = Nat.ofDigitChars 10 digits 0 := by
  rw [value, Nat.ofDigitChars_eq_foldl]
  congr 1
  funext total digit
  rw [digitValue, Nat.mul_comm]

theorem toList_write (number : Nat) : (write number).toList = Nat.toDigits 10 number := by
  rw [write, Nat.toString_eq_ofList_toDigits, String.toList_ofList]

theorem toList_write_ne_nil (number : Nat) : (write number).toList ≠ [] := by
  rw [toList_write]
  exact Nat.toDigits_ne_nil

theorem isDigit_of_mem_write {number : Nat} {digit : Char} (within : digit ∈ (write number).toList) :
    digit.isDigit = true := by
  rw [toList_write] at within
  exact Nat.isDigit_of_mem_toDigits (by decide) (by decide) within

theorem value_write (number : Nat) : value (write number).toList = number := by
  rw [toList_write, value_eq_ofDigitChars, Nat.ofDigitChars_ten_toDigits]

/-- A written number denotes that number. -/
theorem denotes_write (number : Nat) : Denotes (write number).toList number := by
  have digits := Denotes.digits (toList_write_ne_nil number) fun _ => isDigit_of_mem_write
  rwa [value_write] at digits

theorem declares_write (number : Nat) : Declares (write number) number :=
  (denotes_write number).declares

/-- A written number is read back, where white space may stand around it and where it may
not. -/
theorem read_write {bound number : Nat} (small : number < bound) :
    readTrimmedBelow? bound (write number) = some number ∧
      readBelow? bound (write number).toList = some number :=
  ⟨readTrimmedBelow?_eq_some_iff.2 ⟨declares_write number, small⟩,
    readBelow?_eq_some_iff.2 ⟨denotes_write number, small⟩⟩

/-- A written number is known in front of what does not go on with a digit, and so is where
it ends. -/
theorem write_append_inj {left right : Nat} {rest more : List Char}
    (stops : Stops Char.isDigit rest) (stopsMore : Stops Char.isDigit more)
    (same : (write left).toList ++ rest = (write right).toList ++ more) :
    left = right ∧ rest = more := by
  have digits := congrArg (List.takeWhile Char.isDigit) same
  have behind := congrArg (List.dropWhile Char.isDigit) same
  rw [takeWhile_append_of_stops (fun _ => isDigit_of_mem_write) stops,
    takeWhile_append_of_stops (fun _ => isDigit_of_mem_write) stopsMore] at digits
  rw [dropWhile_append_of_stops (fun _ => isDigit_of_mem_write) stops,
    dropWhile_append_of_stops (fun _ => isDigit_of_mem_write) stopsMore] at behind
  have values := congrArg value digits
  rw [value_write, value_write] at values
  exact ⟨values, behind⟩

/-- A number is known in front of words that do not begin with a digit. -/
theorem write_words_inj {left right : Nat} {words rest more : String}
    (stops : ∀ behind, Stops Char.isDigit (words.toList ++ behind)) :
    write left ++ (words ++ rest) = write right ++ (words ++ more) ↔
      left = right ∧ rest = more := by
  constructor
  · intro same
    have texts := congrArg String.toList same
    simp only [String.toList_append] at texts
    obtain ⟨sameNumber, behind⟩ := write_append_inj (stops _) (stops _) texts
    exact ⟨sameNumber, String.toList_inj.1 (List.append_cancel_left behind)⟩
  · rintro ⟨rfl, rfl⟩
    rfl

theorem write_inj {left right : Nat} : write left = write right ↔ left = right := by
  constructor
  · intro same
    exact (write_append_inj (stops_nil _) (stops_nil _) (by rw [same])).1
  · exact congrArg write

end Replay.Decimal
