import Replay.Json.Items
import Replay.Json.Text

/-!
# Members of objects

A member of an object: its name between quotes, a colon and a value. The reader
of the value decides what kind of object it is.
-/

namespace Replay.Json

/-- A member of an object, whose value `read` takes. -/
def member {α : Type} (ending : Ending) (read : Reader α) : Reader (String × α)
  | [] => .error (ending.fault .endInObject)
  | quote :: rest =>
    if quote = 0x22 then
      match text ending rest with
      | .error fault => .error fault
      | .ok key =>
        match colon ending key.rest with
        | .error fault => .error fault
        | .ok colon =>
          match read colon.rest with
          | .error fault => .error fault
          | .ok value =>
            .ok ⟨(key.value, value.value), value.rest, by
              have := key.shorter
              have := colon.shorter
              have := value.shorter
              simp; omega⟩
    else .error ⟨.keyNotText, .onNext, rest.length + 1⟩

end Replay.Json
