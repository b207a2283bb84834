import Replay.Text.AsciiCase

/-!
# Header fields

The header fields of a message in their order. Names are looked up without
regard to the case of ASCII letters, and the first field with a name counts.
-/

namespace Replay

/-- Names and values in the order of the message. -/
abbrev Fields := List (String × String)

/-- The value of the first field with a name. -/
def Fields.first? (fields : Fields) (name : String) : Option String :=
  (fields.find? fun field => Text.sameName field.1 name).map Prod.snd

/-- The name of the field that declares the length of a body. -/
def Fields.contentLength : String := "content-length"

/-- The name of the field that declares the type of a body. -/
def Fields.contentType : String := "content-type"

end Replay
