import Mathlib.Data.List.Induction
import Replay.Proofs.Wire.FieldMap

/-!
# Responses as they are sent

A response is sent with all its header fields or replaced as a whole. A field is refused
for its name, for its value, or because the fields before it have too many names; the
first refusal sticks, whatever stands behind it. If no field is refused, the reply has,
under each name, the values of the fields with this name in their order.
-/

namespace Replay

open Text Utf8

namespace Wire

/-- How many names fields have, case aside. -/
def nameCount (fields : Fields) : Nat :=
  (fields.map fun field => smallName field.1).dedup.length

/-- Why a field that stands behind others is refused. -/
inductive Refuses (earlier : Fields) (field : String × String) : FieldRefusal → Prop where
  | name (illegal : ¬ LegalName field.1) : Refuses earlier field .name
  | value (named : LegalName field.1) (illegal : ¬ LegalValue field.2) :
      Refuses earlier field .value
  | room (named : LegalName field.1) (valued : LegalValue field.2)
      (full : FieldMap.fullSize ≤ nameCount earlier) : Refuses earlier field .room

/-- No field is refused. -/
def Sendable (fields : Fields) : Prop :=
  ∀ earlier field later refusal, fields = earlier ++ field :: later → ¬ Refuses earlier field refusal

/-- Why the first field that is refused is so. -/
def FirstRefused (fields : Fields) (refusal : FieldRefusal) : Prop :=
  ∃ earlier field later, fields = earlier ++ field :: later ∧ Sendable earlier ∧
    Refuses earlier field refusal

variable {map : FieldMap} {field : String × String} {fields earlier : Fields}
  {refusal : FieldRefusal}

theorem FirstRefused.not_sendable (refused : FirstRefused fields refusal) : ¬ Sendable fields := by
  obtain ⟨earlier, field, later, parts, _, refuses⟩ := refused
  exact fun sendable => sendable earlier field later refusal parts refuses

namespace Sendable

theorem nil : Sendable [] := by
  intro earlier field later refusal parts
  simp at parts

theorem concat (sendable : Sendable fields) (accepted : ∀ refusal, ¬ Refuses fields field refusal) :
    Sendable (fields ++ [field]) := by
  intro earlier judged later refusal parts
  rcases later.eq_nil_or_concat with rfl | ⟨front, last, rfl⟩
  · obtain ⟨rfl, same⟩ := List.append_inj' parts rfl
    obtain rfl := List.singleton_inj.1 same
    exact accepted refusal
  · rw [List.concat_eq_append, ← List.cons_append, ← List.append_assoc] at parts
    obtain ⟨rfl, _⟩ := List.append_inj' parts rfl
    exact sendable earlier judged front refusal rfl

end Sendable

/-! ## Fields of a response in a map -/

theorem encodeFields_concat (fields : Fields) (field : String × String) :
    encodeFields (fields ++ [field]) =
      encodeFields fields ++ [(encode field.1, encode field.2)] :=
  List.map_append

theorem all_isValueOctet_iff {value : String} :
    (encode value).all isValueOctet = true ↔ LegalValue value := by
  rw [List.all_eq_true, valueOctets_iff]

namespace FieldMap

/-- The fields in a map have names. -/
theorem Gathers.name?_encode (gathers : map.Gathers (encodeFields fields))
    (within : field ∈ fields) : name? (encode field.1) = some (smallName field.1) := by
  obtain ⟨key, named⟩ := gathers.legal _ (List.mem_map_of_mem within)
  refine name?_of_legal (not_not.1 fun illegal => ?_)
  rw [name?_of_illegal illegal] at named
  cases named

/-- A map has as many groups as the fields in it have names. -/
theorem Gathers.length_groups_encoded (gathers : map.Gathers (encodeFields fields)) :
    map.groups.length = nameCount fields := by
  have names : (encodeFields fields).filterMap (fun field => name? field.1) =
      fields.map fun field => smallName field.1 := by
    rw [encodeFields, List.filterMap_map, ← List.filterMap_eq_map]
    exact List.filterMap_congr fun field within => gathers.name?_encode within
  rw [gathers.length_groups, names, nameCount]

section Added

variable (gathers : map.Gathers (encodeFields earlier))

include gathers

/-- A map that holds the fields before a refused one refuses it for the same reason. -/
theorem add_of_refuses (refuses : Refuses earlier field refusal) :
    map.add (encode field.1, encode field.2) = .error refusal := by
  cases refuses with
  | name illegal => rw [add, name?_of_illegal illegal]
  | value named illegal =>
    rw [add, name?_of_legal named]
    exact if_neg (mt all_isValueOctet_iff.1 illegal)
  | room named valued full =>
    have noRoom : map.append? (smallName field.1) (encode field.2) = none := by
      rw [append?, gathers.length_groups_encoded, if_neg (Nat.not_lt.2 full)]
    rw [add, name?_of_legal named]
    simp only [all_isValueOctet_iff.2 valued, if_true, noRoom]

theorem add_of_accepted (accepted : ∀ refusal, ¬ Refuses earlier field refusal) :
    ∃ more, map.add (encode field.1, encode field.2) = .ok more := by
  have named : LegalName field.1 := not_not.1 fun illegal => accepted .name (.name illegal)
  have valued : LegalValue field.2 :=
    not_not.1 fun illegal => accepted .value (.value named illegal)
  have room : map.groups.length < fullSize := by
    rw [gathers.length_groups_encoded]
    exact Nat.not_le.1 fun full => accepted .room (.room named valued full)
  exact ⟨_, add_eq_ok_iff.2 ⟨_, name?_of_legal named, all_isValueOctet_iff.2 valued, if_pos room⟩⟩

end Added

/-- All fields are kept, or the first refused one decides. -/
theorem ofFields_encodeFields_cases (fields : Fields) :
    (Sendable fields ∧ ∃ map, ofFields (encodeFields fields) = .ok map) ∨
      ∃ refusal, FirstRefused fields refusal ∧ ofFields (encodeFields fields) = .error refusal := by
  induction fields using List.reverseRecOn with
  | nil => exact .inl ⟨Sendable.nil, empty, rfl⟩
  | append_singleton fields field ih =>
    rw [encodeFields_concat, ofFields_concat]
    rcases ih with ⟨sendable, map, built⟩ | ⟨refusal, ⟨earlier, first, later, rfl, rest⟩, failed⟩
    · rw [built]
      have gathers := gathers_ofFields built
      by_cases judged : ∃ refusal, Refuses fields field refusal
      · obtain ⟨refusal, refuses⟩ := judged
        exact .inr ⟨refusal, ⟨fields, field, [], rfl, sendable, refuses⟩,
          add_of_refuses gathers refuses⟩
      · rw [not_exists] at judged
        exact .inl ⟨sendable.concat judged, add_of_accepted gathers judged⟩
    · -- The refusal sticks: the map is not asked about later fields.
      refine .inr ⟨refusal, ⟨earlier, first, later ++ [field], ?_, rest⟩, ?_⟩
      · rw [List.append_assoc, List.cons_append]
      · rw [failed]
        rfl

end FieldMap

/-- A map holds fields that were sent: under each name their values in their order, and
nothing else. -/
structure Carries (map : FieldMap) (fields : Fields) : Prop where
  found (name : String) :
    map.values (smallName name) =
      (fields.filter fun field => AlikeNames field.1 name).map fun field => encode field.2
  listed (name : String) :
    (map.toList.filter fun field => AlikeNames field.1 name) =
      (fields.filter fun field => AlikeNames field.1 name).map fun field =>
        (smallName name, encode field.2)

theorem carries_of_gathers (gathers : map.Gathers (encodeFields fields)) : Carries map fields := by
  have found (name : String) : map.values (smallName name) =
      (fields.filter fun field => AlikeNames field.1 name).map fun field => encode field.2 := by
    rw [gathers.listed, encodeFields, List.filter_map, List.map_map]
    refine congrArg _ (List.filter_congr fun field within => ?_)
    simp only [Function.comp_apply, gathers.name?_encode within, Option.some.injEq, smallName_eq_iff]
  refine ⟨found, fun name => ?_⟩
  rw [gathers.formed.filter_alike, found, List.map_map]
  rfl

/-- The first value under a name is that of the first field with this name. -/
theorem Carries.first?_eq (carries : Carries map fields) (name : String) :
    map.first? (smallName name) = (fields.first? name).map encode := by
  rw [FieldMap.first?, carries.found, List.head?_map, List.head?_filter, Fields.first?,
    Option.map_map]
  simp only [decide_alikeNames]
  rfl

namespace Reply

/-- A response is sent with all its fields or not at all, exactly. One refused field, wherever
it stands, is enough to send and report a failure in its place. -/
theorem ofResponse_exact (response : Response) :
    (¬ Sendable response.fields → ∃ reply event refusal,
      ofResponse response = (reply, [event]) ∧ FirstRefused response.fields refusal ∧
      reply.status.code = 500 ∧ reply.fields.toList = [] ∧ reply.body = [] ∧
      event.severity = .error ∧ event.details = [("error", refusal.message)]) ∧
    (Sendable response.fields → ∃ fields,
      ofResponse response = (⟨response.status, fields, response.body⟩, []) ∧
      Carries fields response.fields ∧
      ∀ name, (response.field? name).map encode = fields.first? (smallName name)) := by
  rcases FieldMap.ofFields_encodeFields_cases response.fields with
    ⟨sendable, fields, built⟩ | ⟨refusal, refused, failed⟩
  · refine ⟨fun unsendable => absurd sendable unsendable, fun _ => ⟨fields, ?_, ?_⟩⟩
    · rw [ofResponse, built]
    · have carries := carries_of_gathers (FieldMap.gathers_ofFields built)
      exact ⟨carries, fun name => (carries.first?_eq name).symm⟩
  · refine ⟨fun _ => ?_, fun sendable => absurd sendable refused.not_sendable⟩
    refine ⟨.failed, .unsendable refusal.message, refusal, ?_, refused, rfl, rfl, rfl, rfl, rfl⟩
    rw [ofResponse, failed]

/-- A value with a line end takes the fields around it with it. -/
example : ofResponse ⟨.ok, [("X-Tag", "1"), ("Note", "a\r\nb"), ("x-tag", "2")], [0x61]⟩ =
    (failed, [.unsendable "failed to parse header value"]) := by rfl

end Reply

end Wire

end Replay
