import Mathlib.Data.List.Forall2
import Replay.Text.AsciiCase

/-!
# Names that differ in case

Names are compared by their small forms. This is the comparison letter by letter in which
a capital and its small letter count as the same, for the letters of ASCII and no others.
-/

namespace Replay.Text

/-- Two characters are the same, or the capital and the small form of one ASCII letter. -/
def Alike (left right : Char) : Prop :=
  left = right ∨
    (('A' ≤ left ∧ left ≤ 'Z') ∧ right.toNat = left.toNat + 0x20) ∨
    (('A' ≤ right ∧ right ≤ 'Z') ∧ left.toNat = right.toNat + 0x20)

instance (left right : Char) : Decidable (Alike left right) :=
  inferInstanceAs (Decidable (_ ∨ _))

/-- Two names differ at most in the case of ASCII letters. -/
def AlikeNames (left right : String) : Prop :=
  List.Forall₂ Alike left.toList right.toList

instance (left right : String) : Decidable (AlikeNames left right) :=
  inferInstanceAs (Decidable (List.Forall₂ _ _ _))

/-! ## Letters -/

/-- The small letters of ASCII stand so far behind the capitals. -/
theorem toNat_toLower (character : Char) :
    character.toLower.toNat =
      if 0x41 ≤ character.toNat ∧ character.toNat ≤ 0x5A then character.toNat + 0x20
      else character.toNat := by
  unfold Char.toLower
  simp only [ge_iff_le, UInt32.le_iff_toNat_le, Char.toNat]
  simp only [Char.reduceVal, UInt32.reduceToNat]
  split
  · simp only [UInt32.toNat_add, UInt32.reduceSub, UInt32.reduceToNat]
    omega
  · rfl

theorem isCapital_iff {character : Char} :
    'A' ≤ character ∧ character ≤ 'Z' ↔ 0x41 ≤ character.toNat ∧ character.toNat ≤ 0x5A := by
  simp only [Char.le_def, UInt32.le_iff_toNat_le]
  rfl

theorem toLower_eq_iff {left right : Char} : left.toLower = right.toLower ↔ Alike left right := by
  rw [Alike, isCapital_iff, isCapital_iff, ← Char.toNat_inj, ← Char.toNat_inj, toNat_toLower,
    toNat_toLower]
  split <;> split <;> omega

theorem toLower_toLower (character : Char) : character.toLower.toLower = character.toLower := by
  rw [← Char.toNat_inj, toNat_toLower character.toLower]
  refine if_neg ?_
  rw [toNat_toLower]
  split <;> omega

/-! ## Names -/

theorem sameName_iff {left right : String} : sameName left right = true ↔ AlikeNames left right := by
  rw [sameName, beq_iff_eq, smallCase, smallCase, ← List.forall₂_eq_eq_eq,
    List.forall₂_map_left_iff, List.forall₂_map_right_iff]
  simp only [toLower_eq_iff]
  rfl

theorem decide_alikeNames (left right : String) :
    decide (AlikeNames left right) = sameName left right :=
  Bool.eq_iff_iff.2 (decide_eq_true_iff.trans sameName_iff.symm)

/-! ## Small names -/

/-- A name in small letters. -/
def IsSmall (name : String) : Prop :=
  smallCase name = name.toList

/-- A name with its ASCII capitals made small. -/
def smallName (name : String) : String :=
  String.ofList (smallCase name)

@[simp] theorem toList_smallName (name : String) : (smallName name).toList = smallCase name :=
  String.toList_ofList

@[simp] theorem smallCase_smallName (name : String) : smallCase (smallName name) = smallCase name := by
  rw [smallCase, toList_smallName, smallCase, List.map_map]
  exact List.map_congr_left fun character _ => toLower_toLower character

theorem isSmall_smallName (name : String) : IsSmall (smallName name) := by
  rw [IsSmall, smallCase_smallName, toList_smallName]

/-- Names that differ in case only have one small form. -/
theorem smallName_eq_iff {left right : String} :
    smallName left = smallName right ↔ AlikeNames left right := by
  rw [← sameName_iff, sameName, beq_iff_eq, ← String.toList_inj, toList_smallName, toList_smallName]

theorem alikeNames_iff_of_small {key name : String} (small : IsSmall key) :
    AlikeNames key name ↔ key = smallName name := by
  rw [← smallName_eq_iff, ← String.toList_inj, toList_smallName, small, String.toList_inj]

end Replay.Text
