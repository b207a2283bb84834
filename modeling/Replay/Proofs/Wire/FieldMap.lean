import Mathlib.Data.List.Dedup
import Replay.Proofs.Wire.FieldText

/-!
# Field maps by name

A field map is asked for the values of a name. Appending a value changes the values of
its own name only. In maps that are built by appending, each name has one group and is
written in small letters; the text fields of a request then hold, for each name, the
values that read as text, in their order.
-/

namespace Replay

open Text

namespace Wire

namespace FieldMap

/-! ## Values -/

theorem values_cons (key name : String) (listed : List Bytes)
    (groups : List (String × List Bytes)) :
    values ⟨(key, listed) :: groups⟩ name =
      if name = key then listed else values ⟨groups⟩ name := by
  by_cases same : name = key
  · simp [values, same]
  · simp [values, List.lookup_cons, beq_eq_false_iff_ne.2 same, same]

theorem values_appendTo (groups : List (String × List Bytes)) (name other : String)
    (value : Bytes) :
    values ⟨appendTo name value groups⟩ other =
      if other = name then values ⟨groups⟩ name ++ [value] else values ⟨groups⟩ other := by
  induction groups with
  | nil => exact values_cons name other [value] []
  | cons group groups ih =>
    obtain ⟨key, listed⟩ := group
    by_cases here : key = name
    · subst here
      by_cases same : other = key
      · simp [appendTo, values_cons, same]
      · simp [appendTo, values_cons, same]
    · rw [appendTo, if_neg here]
      have apart : name ≠ key := fun same => here same.symm
      by_cases first : other = key
      · simp [values_cons, first, here]
      · simp [values_cons, first, apart, ih]

/-- Appending changes the values of one name: the new one is the last of them. -/
theorem values_append? {fields more : FieldMap} {name : String} {value : Bytes}
    (appended : fields.append? name value = some more) (other : String) :
    more.values other =
      if other = name then fields.values name ++ [value] else fields.values other := by
  simp only [append?, Option.ite_none_right_eq_some, Option.some.injEq] at appended
  rw [← appended.2]
  exact values_appendTo fields.groups name other value

/-! ## Maps that are built by appending -/

/-- Each name has one group and is written in small letters. -/
structure Formed (fields : FieldMap) : Prop where
  distinct : (fields.groups.map Prod.fst).Nodup
  small : ∀ group ∈ fields.groups, IsSmall group.1

theorem formed_empty : empty.Formed :=
  ⟨List.nodup_nil, List.forall_mem_nil _⟩

theorem map_fst_appendTo (groups : List (String × List Bytes)) (name : String) (value : Bytes) :
    (appendTo name value groups).map Prod.fst =
      if name ∈ groups.map Prod.fst then groups.map Prod.fst
      else groups.map Prod.fst ++ [name] := by
  induction groups with
  | nil => rfl
  | cons group groups ih =>
    by_cases here : group.1 = name
    · simp [appendTo, here]
    · have apart : name ≠ group.1 := fun same => here same.symm
      rw [appendTo, if_neg here, List.map_cons, ih]
      by_cases later : name ∈ groups.map Prod.fst
      · rw [if_pos later, List.map_cons, if_pos (List.mem_cons_of_mem _ later)]
      · rw [if_neg later, List.map_cons, if_neg (List.not_mem_cons_of_ne_of_not_mem apart later),
          List.cons_append]

theorem Formed.append? {fields more : FieldMap} {name : String} {value : Bytes}
    (formed : fields.Formed) (small : IsSmall name)
    (appended : fields.append? name value = some more) : more.Formed := by
  simp only [FieldMap.append?, Option.ite_none_right_eq_some, Option.some.injEq] at appended
  obtain ⟨_, rfl⟩ := appended
  have names := map_fst_appendTo fields.groups name value
  have smallNames : ∀ key ∈ fields.groups.map Prod.fst, IsSmall key := by
    simpa using formed.small
  constructor
  · rw [names]
    split
    · exact formed.distinct
    · next absent =>
      exact (List.perm_append_singleton name _).nodup_iff.2
        (List.nodup_cons.2 ⟨absent, formed.distinct⟩)
  · intro group within
    have among : group.1 ∈ (appendTo name value fields.groups).map Prod.fst :=
      List.mem_map_of_mem within
    rw [names] at among
    split at among
    · exact smallNames _ among
    · rcases List.mem_append.1 among with among | among
      · exact smallNames _ among
      · rw [List.mem_singleton.1 among]
        exact small

/-! ## Fields that are gathered in a map -/

/-- A map holds fields: their names, and under each name their values in their order. -/
structure Gathers (map : FieldMap) (seen : List (Bytes × Bytes)) : Prop where
  formed : map.Formed
  legal : ∀ field ∈ seen, ∃ name, name? field.1 = some name
  named (name : String) :
    name ∈ map.groups.map Prod.fst ↔ ∃ field ∈ seen, name? field.1 = some name
  listed (name : String) :
    map.values name = (seen.filter fun field => name? field.1 = some name).map Prod.snd

section Gathers

variable {map more start : FieldMap} {field : Bytes × Bytes} {seen fields : List (Bytes × Bytes)}

theorem gathers_empty : empty.Gathers [] :=
  ⟨formed_empty, List.forall_mem_nil _, by simp [empty], fun _ => rfl⟩

/-- A field is added if its name and its value are legal and there is room for it. -/
theorem add_eq_ok_iff :
    map.add field = .ok more ↔ ∃ name, name? field.1 = some name ∧
      field.2.all isValueOctet = true ∧ map.append? name field.2 = some more := by
  unfold add
  split
  · next nameless => simp [nameless]
  · next name named =>
    split
    · next legal => cases appended : map.append? name field.2 <;> simp [named, legal, appended]
    · next illegal => simp [illegal]

/-- One more field stands last under its name. -/
theorem Gathers.add (gathers : map.Gathers seen) (added : map.add field = .ok more) :
    more.Gathers (seen ++ [field]) := by
  obtain ⟨key, named, _, appended⟩ := add_eq_ok_iff.1 added
  refine ⟨gathers.formed.append? (isSmall_of_name? named) appended, ?_, ?_, ?_⟩
  · rw [List.forall_mem_append, List.forall_mem_singleton]
    exact ⟨gathers.legal, key, named⟩
  · intro name
    have kept := appended
    simp only [FieldMap.append?, Option.ite_none_right_eq_some, Option.some.injEq] at kept
    rw [← kept.2, map_fst_appendTo]
    simp only [List.mem_append, List.mem_singleton, or_and_right, exists_or, exists_eq_left,
      ← gathers.named, named, Option.some.injEq]
    split
    · next among =>
      refine ⟨.inl, ?_⟩
      rintro (within | rfl)
      · exact within
      · exact among
    · simp [eq_comm]
  · intro name
    rw [values_append? appended, gathers.listed, gathers.listed, List.filter_append,
      List.map_append]
    by_cases same : name = key
    · simp [same, named]
    · have apart : key ≠ name := fun other => same other.symm
      simp [same, named, apart]

theorem gathers_of_foldlM (gathers : start.Gathers seen)
    (added : fields.foldlM add start = .ok map) : map.Gathers (seen ++ fields) := by
  induction fields generalizing start seen with
  | nil =>
    cases added
    rwa [List.append_nil]
  | cons field fields ih =>
    rw [List.foldlM_cons] at added
    cases first : start.add field with
    | error refusal =>
      rw [first] at added
      cases added
    | ok next =>
      rw [first] at added
      rw [List.append_cons]
      exact ih (gathers.add first) added

/-- A map of fields holds them. -/
theorem gathers_ofFields (built : ofFields fields = .ok map) : map.Gathers fields :=
  gathers_of_foldlM gathers_empty built

/-- A map has one group for each name. -/
theorem Gathers.length_groups (gathers : map.Gathers seen) :
    map.groups.length = (seen.filterMap fun field => name? field.1).dedup.length := by
  have names : (map.groups.map Prod.fst).Perm (seen.filterMap fun field => name? field.1).dedup := by
    rw [List.perm_ext_iff_of_nodup gathers.formed.distinct (List.nodup_dedup _)]
    intro name
    rw [gathers.named, List.mem_dedup, List.mem_filterMap]
  rw [← names.length_eq, List.length_map]

theorem ofFields_concat (fields : List (Bytes × Bytes)) (field : Bytes × Bytes) :
    ofFields (fields ++ [field]) = (ofFields fields).bind fun map => map.add field := by
  simp only [ofFields, List.foldlM_append, List.foldlM_cons, List.foldlM_nil, bind_pure]
  rfl

end Gathers

/-! ## Fields by name -/

/-- A name that has no group has no values. -/
theorem values_of_absent {groups : List (String × List Bytes)} {name : String}
    (absent : name ∉ groups.map Prod.fst) : values ⟨groups⟩ name = [] := by
  induction groups with
  | nil => rfl
  | cons group groups ih =>
    rw [List.map_cons, List.mem_cons, not_or] at absent
    rw [values_cons, if_neg absent.1, ih absent.2]

/-- The fields with a name are the values of the name. -/
theorem filter_toList {groups : List (String × List Bytes)}
    (distinct : (groups.map Prod.fst).Nodup) (name : String) :
    ((toList ⟨groups⟩).filter fun field => field.1 = name) =
      (values ⟨groups⟩ name).map fun value => (name, value) := by
  induction groups with
  | nil => rfl
  | cons group groups ih =>
    obtain ⟨key, listed⟩ := group
    rw [List.map_cons, List.nodup_cons] at distinct
    obtain ⟨absent, distinct⟩ := distinct
    have parts : toList ⟨(key, listed) :: groups⟩ =
        (listed.map fun value => (key, value)) ++ toList ⟨groups⟩ := rfl
    rw [parts, List.filter_append, ih distinct, List.filter_map, values_cons]
    by_cases here : name = key
    · subst here
      rw [values_of_absent absent, List.filter_eq_self.2 (by simp)]
      simp
    · have apart : key ≠ name := fun same => here same.symm
      simp [here, apart, Function.comp_def]

/-- The fields with a name, in whatever case it is asked for, are the values of its small
form. -/
theorem Formed.filter_alike {fields : FieldMap} (formed : fields.Formed) (name : String) :
    (fields.toList.filter fun field => AlikeNames field.1 name) =
      (fields.values (smallName name)).map fun value => (smallName name, value) := by
  rw [← filter_toList formed.distinct]
  refine List.filter_congr fun field within => ?_
  obtain ⟨group, among, listed⟩ := List.mem_flatMap.1 within
  obtain ⟨value, _, rfl⟩ := List.mem_map.1 listed
  simp only [alikeNames_iff_of_small (formed.small group among)]

/-- The text fields with a name are the values of its small form that read as text. -/
theorem Formed.visible_alike {fields : FieldMap} (formed : fields.Formed) (name : String) :
    (fields.visible.filter fun field => AlikeNames field.1 name) =
      ((fields.values (smallName name)).filterMap visibleText?).map fun text =>
        (smallName name, text) := by
  -- A value that reads as text keeps its name, so it may be judged by name before.
  have judged (field : String × Bytes) :
      (((visibleText? field.2).map fun text => (field.1, text)).filter fun field =>
          AlikeNames field.1 name) =
        if decide (AlikeNames field.1 name) = true then
          (visibleText? field.2).map fun text => (field.1, text)
        else none := by
    by_cases named : AlikeNames field.1 name
    · cases visibleText? field.2 <;> simp [named]
    · cases visibleText? field.2 <;> simp [named]
  rw [visible, List.filter_filterMap, funext judged, ← List.filterMap_filter,
    formed.filter_alike, List.filterMap_map, List.map_filterMap]
  rfl

/-- The first text field with a name has the first value of its small form that reads as
text. -/
theorem Formed.first?_visible {fields : FieldMap} (formed : fields.Formed) (name : String) :
    fields.visible.first? name =
      ((fields.values (smallName name)).filterMap visibleText?).head? := by
  have named := formed.visible_alike name
  simp only [decide_alikeNames] at named
  rw [Fields.first?, ← List.head?_filter, named, List.head?_map, Option.map_map]
  exact congrFun Option.map_id _

end FieldMap

end Wire

end Replay
