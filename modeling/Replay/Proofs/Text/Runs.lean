import Replay.Text.Utf8

/-!
# Runs

A reader that takes the longest run of elements with a property finds a run again
exactly where the next element does not have the property. This holds for octets
and characters alike.
-/

namespace Replay

variable {α : Type} {property : α → Bool}

/-- The next element, if there is one, does not have a property. -/
def Stops (property : α → Bool) (rest : List α) : Prop :=
  ∀ next ∈ rest.head?, property next = false

@[simp] theorem stops_nil (property : α → Bool) : Stops property [] := by
  simp [Stops]

@[simp] theorem stops_cons {next : α} {rest : List α} :
    Stops property (next :: rest) ↔ property next = false := by
  simp [Stops]

theorem stops_dropWhile (property : α → Bool) (input : List α) :
    Stops property (input.dropWhile property) := by
  induction input with
  | nil => simp
  | cons next rest ih =>
    cases holds : property next with
    | true => simpa [List.dropWhile_cons, holds] using ih
    | false => simp [holds]

theorem Stops.weaken {weaker : α → Bool} {rest : List α} (stops : Stops weaker rest)
    (implies : ∀ next, property next = true → weaker next = true) : Stops property rest := by
  intro next first
  cases holds : property next with
  | false => rfl
  | true =>
    have met := implies next holds
    rw [stops next first] at met
    cases met

theorem dropWhile_append_of_stops {run rest : List α}
    (all : ∀ element ∈ run, property element = true) (stops : Stops property rest) :
    (run ++ rest).dropWhile property = rest := by
  rw [List.dropWhile_append_of_pos all]
  cases rest with
  | nil => rfl
  | cons next rest => simp [stops_cons.1 stops]

theorem takeWhile_append_of_stops {run rest : List α}
    (all : ∀ element ∈ run, property element = true) (stops : Stops property rest) :
    (run ++ rest).takeWhile property = run := by
  rw [List.takeWhile_append_of_pos all]
  cases rest with
  | nil => simp
  | cons next rest => simp [stops_cons.1 stops]

theorem forall_mem_takeWhile (property : α → Bool) (input : List α) :
    ∀ element ∈ input.takeWhile property, property element = true :=
  fun element within => List.all_eq_true.1 List.all_takeWhile element within

end Replay
