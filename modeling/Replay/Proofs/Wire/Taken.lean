import Replay.Proofs.Http.DeclaredLength
import Replay.Proofs.Wire.FieldMap
import Replay.Text.Order

/-!
# Requests as they are taken

A request is taken from a head, in whose map the fields are grouped by name. The request
has the values that read as text, each as often as it stands in the head; those of one
name keep their order, under the name in small letters. The first of them is what a
look-up finds, and it decides the declared length, whatever opaque values stand before.
-/

namespace Replay

open Text Utf8

namespace Wire

/-- The values of a name that are of visible ASCII, in the order of their fields. -/
def textsUnder (name : String) (fields : List (Bytes × Bytes)) : List String :=
  fields.filterMap fun field =>
    if (decode? field.1).any fun key => AlikeNames key name then
      (decode? field.2).filter fun text => Visible text
    else none

variable {map : FieldMap} {fields : List (Bytes × Bytes)} {method target : Bytes} {head : Head}

namespace FieldMap

/-- The small form of a name is that of a field if the field has the name. -/
theorem name?_eq_smallName_iff {octets : Bytes} {key name : String}
    (named : name? octets = some key) :
    name? octets = some (smallName name) ↔
      ((decode? octets).any fun key => AlikeNames key name) = true := by
  obtain ⟨text, rfl, legal, rfl⟩ := name?_eq_some_iff.1 named
  rw [named, Option.some_inj, smallName_eq_iff, decode?_eq_some_iff.2 rfl, Option.any_some,
    decide_eq_true_eq]

/-- The values in a map that read as text are those of the fields in it. -/
theorem Gathers.filterMap_values (gathers : map.Gathers fields) (name : String) :
    (map.values (smallName name)).filterMap visibleText? = textsUnder name fields := by
  rw [gathers.listed, List.filterMap_map, List.filterMap_filter, textsUnder]
  refine List.filterMap_congr fun field within => ?_
  obtain ⟨key, named⟩ := gathers.legal field within
  simp only [decide_eq_true_eq, name?_eq_smallName_iff named, Function.comp_apply, visibleText?_eq]

end FieldMap

namespace Head

/-- A head is built if its three parts can be. -/
theorem build_eq_ok_iff :
    build method target fields = .ok head ↔
      methodOf? method = some head.method ∧ Target.path target = .ok head.path ∧
        FieldMap.ofFields fields = .ok head.fields := by
  obtain ⟨token, path, map⟩ := head
  unfold build
  cases methodOf? method with
  | none => simp
  | some _ =>
    cases Target.path target with
    | error _ => simp
    | ok _ =>
      cases FieldMap.ofFields fields with
      | error _ => simp
      | ok _ => simp

/-- A method is the text of its octets. -/
theorem encode_of_methodOf? {token : String} (named : methodOf? method = some token) :
    encode token = method := by
  simp only [methodOf?, Option.ite_none_right_eq_some, Bool.and_eq_true, List.all_eq_true,
    Option.some.injEq] at named
  obtain ⟨⟨_, tokens⟩, rfl⟩ := named
  exact encode_asciiText fun octet within => lt_of_isTokenOctet octet (tokens octet within)

theorem method_request_eq_post_iff (named : methodOf? method = some head.method) (body : Bytes) :
    (head.request body).method = .post ↔ method = encode "POST" := by
  rw [request, Method.ofToken_eq_post, ← encode_of_methodOf? named]
  exact ⟨congrArg encode, encode_injective⟩

/-- The fields of a request under a name are the texts under it. -/
theorem filter_fields_request (gathers : head.fields.Gathers fields) (body : Bytes)
    (name : String) :
    ((head.request body).fields.filter fun field => AlikeNames field.1 name) =
      (textsUnder name fields).map fun text => (smallName name, text) := by
  rw [request, gathers.formed.visible_alike, gathers.filterMap_values]

theorem field?_request (gathers : head.fields.Gathers fields) (body : Bytes) (name : String) :
    (head.request body).field? name = (textsUnder name fields).head? := by
  rw [Request.field?, request, gathers.formed.first?_visible, gathers.filterMap_values]

/-- A request is what its head and its body say, exactly. -/
theorem request_exact (built : build method target fields = .ok head) (body : Bytes) :
    (∀ name, ((head.request body).fields.filter fun field => AlikeNames field.1 name) =
      (textsUnder name fields).map fun text => (smallName name, text)) ∧
    (∀ name, (head.request body).field? name = (textsUnder name fields).head?) ∧
    (∀ outcome, (head.request body).declaredLength = outcome ↔
      LengthOf (textsUnder Fields.contentLength fields).head? outcome) ∧
    (head.request body).body = body ∧
    ((head.request body).method = .post ↔ method = encode "POST") ∧
    Target.path target = .ok (head.request body).path := by
  obtain ⟨named, found, kept⟩ := build_eq_ok_iff.1 built
  have gathers := FieldMap.gathers_ofFields kept
  have first := field?_request gathers body
  exact ⟨filter_fields_request gathers body, first,
    fun _ => Request.declaredLength_eq_iff (first Fields.contentLength), rfl,
    method_request_eq_post_iff named body, found⟩

/-- Opaque values stand before the length that is declared, and names are repeated in
other cases. -/
theorem request_of_repeated :
    let fields := [(encode "Content-Length", [0x32, 0x80]), (encode "X-Tag", encode "first"),
      (encode "CONTENT-LENGTH", encode "2"), (encode "x-tag", encode "second")]
    ∃ head, build (encode "POST") (encode "/x?y=1") fields = .ok head ∧
      (head.request (encode "ab")).method = .post ∧
      (head.request (encode "ab")).body = encode "ab" ∧
      ((head.request (encode "ab")).fields.filter fun field => AlikeNames field.1 "X-TAG") =
        [("x-tag", "first"), ("x-tag", "second")] ∧
      (head.request (encode "ab")).field? "X-TAG" = some "first" ∧
      (head.request (encode "ab")).declaredLength = .ok 2 := by
  intro fields
  have built : build (encode "POST") (encode "/x?y=1") fields =
      .ok ⟨"POST", "/x", ⟨[("content-length", [[0x32, 0x80], encode "2"]),
        ("x-tag", [encode "first", encode "second"])]⟩⟩ :=
    build_eq_ok_iff.2 ⟨by decide +kernel, by decide +kernel, by decide +kernel⟩
  obtain ⟨listed, first, declared, body, method, _⟩ := request_exact built (encode "ab")
  have tags : textsUnder "X-TAG" fields = ["first", "second"] := by decide +kernel
  have lengths : textsUnder Fields.contentLength fields = ["2"] := by decide +kernel
  refine ⟨_, built, method.2 rfl, body, ?_, ?_, ?_⟩
  · rw [listed, tags]
    decide
  · rw [first, tags]
    rfl
  · rw [declared, lengths]
    exact .length (Decimal.declares_write 2) (by decide)

end Head

end Wire

end Replay
