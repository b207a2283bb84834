import Std.Data.TreeMap
import Replay.Text.Utf8

/-!
# The order of identifiers

Identifiers are ordered by the octets of their UTF-8 form. The order is total,
and only equal identifiers compare as equal, so it can key a map.
-/

namespace Replay

theorem Utf8.encode_injective {left right : String}
    (same : Utf8.encode left = Utf8.encode right) : left = right := by
  apply String.toByteArray_inj.1
  rw [← String.utf8Encode_toList, ← String.utf8Encode_toList, List.utf8Encode, List.utf8Encode]
  exact congrArg List.toByteArray same

namespace Text

/-- Compare octets one by one; what ends first comes first. -/
def compareOctets (left right : Bytes) : Ordering :=
  List.compareLex compare left right

instance : Std.TransCmp compareOctets :=
  inferInstanceAs (Std.TransCmp (List.compareLex compare))

instance : Std.LawfulEqCmp compareOctets :=
  inferInstanceAs (Std.LawfulEqCmp (List.compareLex compare))

/-- The order of octet sequences is the lexicographic one. -/
theorem compareOctets_eq_lt_iff {left right : Bytes} :
    compareOctets left right = .lt ↔ left < right := by
  unfold compareOctets
  induction left generalizing right with
  | nil =>
    cases right with
    | nil => simp [List.compareLex_nil_nil]
    | cons other right => simp [List.compareLex_nil_cons]
  | cons octet left ih =>
    cases right with
    | nil => simp [List.compareLex_cons_nil]
    | cons other right =>
      rw [List.compareLex_cons_cons, Ordering.then_eq_lt, Std.compare_eq_lt,
        Std.LawfulEqCmp.compare_eq_iff_eq, ih, List.cons_lt_cons_iff]

/-- Compare two texts by the octets of their UTF-8 forms. -/
def order (left right : String) : Ordering :=
  compareOctets (Utf8.encode left) (Utf8.encode right)

instance : Std.TransCmp order where
  eq_swap := by
    intro left right
    unfold order
    exact Std.OrientedCmp.eq_swap
  isLE_trans := by
    intro first second third
    unfold order
    exact Std.TransCmp.isLE_trans

instance : Std.LawfulEqCmp order where
  compare_self := by
    intro text
    unfold order
    exact Std.ReflCmp.compare_self
  eq_of_compare := by
    intro left right equal
    exact Utf8.encode_injective (Std.LawfulEqCmp.eq_of_compare equal)

end Text

end Replay
