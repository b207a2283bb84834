import Replay.Json.Value

/-!
# The last member with a name

Where a name may stand more than once in an object, the last member with it counts.
This module says so without any search, for members of requests and of
configuration documents alike.
-/

namespace Replay

variable {α : Type} {name : String} {value : α} {members : List (String × α)}

/-- A value stands under a name, and no member behind it has that name. -/
def LastNamed (name : String) (value : α) (members : List (String × α)) : Prop :=
  ∃ before after, members = before ++ (name, value) :: after ∧
    ∀ member ∈ after, member.1 ≠ name

/-- No member has a name. -/
def Unnamed (name : String) (members : List (String × α)) : Prop :=
  ∀ member ∈ members, member.1 ≠ name

/-- The search from the end finds the last member with a name. -/
theorem find?_reverse_iff :
    (members.reverse.find? fun member => member.1 = name).map Prod.snd = some value ↔
      LastNamed name value members := by
  simp only [Option.map_eq_some_iff, List.find?_eq_some_iff_append]
  -- What stands before the member found in the reversed list stands behind it in the list.
  constructor
  · rintro ⟨member, ⟨named, after, before, parts, others⟩, rfl⟩
    have named : member.1 = name := by simpa using named
    refine ⟨before.reverse, after.reverse, ?_, ?_⟩
    · rw [← List.reverse_reverse members, parts, ← named]
      simp
    · intro entry within
      simpa using others entry (List.mem_reverse.1 within)
  · rintro ⟨before, after, rfl, others⟩
    refine ⟨(name, value), ⟨by simp, after.reverse, before.reverse, by simp, ?_⟩, rfl⟩
    intro entry within
    simpa using others entry (List.mem_reverse.1 within)

theorem find?_reverse_eq_none_iff :
    (members.reverse.find? fun member => member.1 = name).map Prod.snd = none ↔
      Unnamed name members := by
  simp [Unnamed]

/-- Of the members with a name only one is the last. -/
theorem LastNamed.unique {other : α} (last : LastNamed name value members)
    (lastOther : LastNamed name other members) : value = other := by
  rw [← find?_reverse_iff] at last lastOther
  rw [last] at lastOther
  injection lastOther

/-- A name that stands anywhere stands somewhere last. -/
theorem exists_lastNamed (named : ¬ Unnamed name members) :
    ∃ value, LastNamed name value members := by
  rw [← find?_reverse_eq_none_iff] at named
  obtain ⟨value, found⟩ := Option.ne_none_iff_exists'.1 named
  exact ⟨value, find?_reverse_iff.1 found⟩

theorem LastNamed.mem (last : LastNamed name value members) : (name, value) ∈ members := by
  obtain ⟨before, after, rfl, _⟩ := last
  simp

/-- A name stands somewhere last exactly if it stands anywhere. -/
theorem exists_lastNamed_iff :
    (∃ value, LastNamed name value members) ↔ name ∈ members.map Prod.fst := by
  constructor
  · rintro ⟨value, last⟩
    exact List.mem_map_of_mem last.mem
  · intro within
    obtain ⟨member, listed, named⟩ := List.mem_map.1 within
    exact exists_lastNamed fun unnamed => unnamed member listed named

/-- A member in front counts if no member behind it has its name. -/
theorem lastNamed_cons {member : String × α} :
    LastNamed name value (member :: members) ↔
      LastNamed name value members ∨ Unnamed name members ∧ member = (name, value) := by
  rw [← find?_reverse_iff, ← find?_reverse_iff, ← find?_reverse_eq_none_iff, List.reverse_cons,
    List.find?_append, List.find?_singleton]
  obtain ⟨key, content⟩ := member
  cases members.reverse.find? fun member => member.1 = name with
  | some found => simp
  | none =>
    by_cases same : key = name
    · simp [same]
    · simp [same]

theorem unnamed_cons {member : String × α} :
    Unnamed name (member :: members) ↔ member.1 ≠ name ∧ Unnamed name members :=
  List.forall_mem_cons

@[simp] theorem not_lastNamed_nil : ¬ LastNamed name value [] := by
  simp [LastNamed]

@[simp] theorem unnamed_nil : Unnamed name ([] : List (String × α)) := by
  simp [Unnamed]

/-- Looking up a name behind members, where `found` is what was there before them. -/
theorem lastNamed_or_cons {member : String × α} {found : Option α} :
    LastNamed name value members ∨
        Unnamed name members ∧ (if member.1 = name then some member.2 else found) = some value ↔
      LastNamed name value (member :: members) ∨
        Unnamed name (member :: members) ∧ found = some value := by
  rw [lastNamed_cons, unnamed_cons]
  obtain ⟨key, content⟩ := member
  by_cases same : key = name
  · simp [same]
  · simp [same]

/-- Where all names differ, every member is the last with its name. -/
theorem lastNamed_iff_mem (distinct : members.Pairwise fun left right => left.1 ≠ right.1) :
    LastNamed name value members ↔ (name, value) ∈ members := by
  refine ⟨LastNamed.mem, ?_⟩
  intro within
  obtain ⟨before, after, rfl⟩ := List.append_of_mem within
  refine ⟨before, after, rfl, ?_⟩
  intro member behind
  rw [List.pairwise_append, List.pairwise_cons] at distinct
  exact (distinct.2.1.1 member behind).symm

namespace Json.Value

theorem member?_eq_some_iff {name : String} {value : Value} {members : List (String × Value)} :
    member? name members = some value ↔ LastNamed name value members :=
  find?_reverse_iff

end Json.Value

end Replay
