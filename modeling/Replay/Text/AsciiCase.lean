/-!
# ASCII letter case

Field names are compared without regard to the case of ASCII letters; every
other character only equals itself.
-/

namespace Replay.Text

/-- A text with its ASCII capitals made small. -/
def smallCase (text : String) : List Char :=
  text.toList.map Char.toLower

/-- Whether two texts differ at most in the case of ASCII letters. -/
def sameName (left right : String) : Bool :=
  smallCase left == smallCase right

end Replay.Text
