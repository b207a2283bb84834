import Mathlib.Data.List.Induction
import Mathlib.Data.List.Infix
import Replay.Server.Tracker

/-!
# Counting and waiting

What a tracker counts, and what its waiters are told. The count is that of the begun
connections less the ended ones, in words of sixty-four bits. As long as it does not wrap,
no waiter rests while no connection is open: the step that ends the last connection
notifies all that rest. So every poll answers by the count at that moment.
-/

namespace Replay

namespace Waiter

/-- Whether a waiter is pending: it was polled, was not ready, and was not dropped. -/
def isPending : Waiter → Bool
  | .resting | .notified => true
  | .fresh | .finished => false

theorem notify_ne_finished_iff {waiter : Waiter} :
    waiter.notify ≠ .finished ↔ waiter ≠ .finished := by
  cases waiter <;> simp [notify]

theorem poll_ne_finished_iff {waiter : Waiter} {count : UInt64} :
    (waiter.poll count).1 ≠ .finished ↔ waiter ≠ .finished ∧ (waiter.poll count).2 ≠ .ready := by
  cases waiter <;> by_cases none : count = 0 <;> simp [poll, none]

theorem poll_eq_resting {waiter : Waiter} {count : UInt64}
    (rests : (waiter.poll count).1 = .resting) : waiter = .resting ∨ count ≠ 0 := by
  cases waiter <;> by_cases none : count = 0 <;> simp_all [poll]

theorem poll_eq_ready {waiter : Waiter} {count : UInt64}
    (ready : (waiter.poll count).2 = .ready) : count = 0 := by
  cases waiter <;> by_cases none : count = 0 <;> simp_all [poll]

theorem poll_eq_finished_iff {waiter : Waiter} {count : UInt64} :
    (waiter.poll count).2 = .finished ↔ waiter = .finished := by
  cases waiter <;> by_cases none : count = 0 <;> simp [poll, none]

/-- A waiter that does not rest at the count zero is told what the count is. -/
theorem poll_of_awake {waiter : Waiter} {count : UInt64} (waits : waiter ≠ .finished)
    (awake : waiter = .resting → count ≠ 0) :
    (waiter.poll count).2 = if count = 0 then .ready else .pending := by
  cases waiter with
  | fresh => by_cases none : count = 0 <;> simp [poll, none]
  | resting => simp [poll, awake rfl]
  | notified => by_cases none : count = 0 <;> simp [poll, none]
  | finished => exact absurd rfl waits

end Waiter

namespace Tracker

variable {tracker : Tracker} {steps : List TrackerStep}

/-! ## The waiters after one step -/

theorem waiter_mem {index : Nat} (waits : tracker.waiter index ≠ .finished) :
    tracker.waiter index ∈ tracker.waiters := by
  unfold waiter at waits ⊢
  rw [List.getD_eq_getElem?_getD] at waits ⊢
  cases found : tracker.waiters[index]? with
  | none => simp [found] at waits
  | some waiter => simpa using List.mem_of_getElem? found

theorem waiter_finish (tracker : Tracker) (index : Nat) :
    tracker.finish.waiter index =
      if tracker.count = 1 then (tracker.waiter index).notify else tracker.waiter index := by
  unfold finish waiter
  by_cases last : tracker.count = 1
  · simp only [last, if_true, List.getD_eq_getElem?_getD, List.getElem?_map]
    cases tracker.waiters[index]? <;> rfl
  · simp [last]

theorem length_waiters_finish (tracker : Tracker) :
    tracker.finish.waiters.length = tracker.waiters.length := by
  unfold finish
  by_cases last : tracker.count = 1 <;> simp [last]

theorem waiter_wait (tracker : Tracker) (index : Nat) :
    tracker.wait.waiter index =
      if index = tracker.waiters.length then .fresh else tracker.waiter index := by
  unfold wait waiter
  simp only [List.getD_eq_getElem?_getD, List.getElem?_append, List.getElem?_singleton]
  rcases Nat.lt_trichotomy index tracker.waiters.length with made | next | beyond
  · rw [if_pos made, if_neg (by omega)]
  · simp [next]
  · rw [if_neg (by omega), if_neg (by omega), if_neg (by omega),
      List.getElem?_eq_none (by omega)]

theorem waiter_poll (tracker : Tracker) (polled index : Nat) :
    (tracker.poll polled).1.waiter index =
      if polled = index then ((tracker.waiter index).poll tracker.count).1
      else tracker.waiter index := by
  simp only [poll, waiter, List.getD_eq_getElem?_getD, List.getElem?_set]
  by_cases same : polled = index
  · subst same
    by_cases made : polled < tracker.waiters.length
    · simp [made]
    · simp [made, Waiter.poll]
  · simp [same]

theorem waiter_drop (tracker : Tracker) (dropped index : Nat) :
    (tracker.drop dropped).waiter index =
      if dropped = index then .finished else tracker.waiter index := by
  simp only [drop, waiter, List.getD_eq_getElem?_getD, List.getElem?_set]
  by_cases same : dropped = index
  · subst same
    by_cases made : dropped < tracker.waiters.length
    · simp [made]
    · simp [made]
  · simp [same]

/-- What a step does to a waiter, as far as it can be seen from outside: it makes it, drops
it, or tells it that it is ready. -/
theorem waiter_step_ne_finished_iff {step : TrackerStep} {index : Nat} :
    (tracker.step step).1.waiter index ≠ .finished ↔
      (step = .wait ∧ index = tracker.waiters.length) ∨
      (tracker.waiter index ≠ .finished ∧ step ≠ .drop index ∧
        (step = .poll index → (tracker.poll index).2 ≠ .ready)) := by
  cases step with
  | begin => simp [Tracker.step, begin, waiter]
  | finish =>
    rw [Tracker.step, waiter_finish]
    by_cases last : tracker.count = 1
    · simp [last, Waiter.notify_ne_finished_iff]
    · simp [last]
  | wait =>
    rw [Tracker.step, waiter_wait]
    by_cases next : index = tracker.waiters.length
    · simp [next]
    · simp [next]
  | poll polled =>
    rw [Tracker.step, waiter_poll]
    by_cases same : polled = index
    · subst same
      simp [Waiter.poll_ne_finished_iff, poll]
    · simp [same]
  | drop dropped =>
    rw [Tracker.step, waiter_drop]
    by_cases same : dropped = index
    · simp [same]
    · simp [same]

/-! ## No waiter rests at zero -/

/-- Where a waiter rests, a connection is open. -/
def Watchful (tracker : Tracker) : Prop :=
  .resting ∈ tracker.waiters → tracker.count ≠ 0

theorem watchful_begin (room : tracker.count.toNat + 1 < UInt64.size) :
    tracker.begin.Watchful := by
  intro _ wraps
  have full : (tracker.count + 1).toNat = 0 := congrArg UInt64.toNat wraps
  rw [UInt64.toNat_add, UInt64.toNat_one, Nat.mod_eq_of_lt room] at full
  cases full

/-- The end of the last connection leaves no waiter resting, and any other end leaves a
connection open. -/
theorem watchful_finish (tracker : Tracker) : tracker.finish.Watchful := by
  intro rests
  simp only [Tracker.finish] at rests ⊢
  by_cases last : tracker.count = 1
  · rw [if_pos last, List.mem_map] at rests
    obtain ⟨waiter, _, notified⟩ := rests
    cases waiter <;> cases notified
  · intro none
    exact last (by rw [← UInt64.sub_add_cancel tracker.count 1, none]; rfl)

theorem Watchful.wait (watchful : tracker.Watchful) : tracker.wait.Watchful := by
  intro rests
  rcases List.mem_append.1 rests with before | made
  · exact watchful before
  · simp at made

theorem Watchful.poll (watchful : tracker.Watchful) (index : Nat) :
    (tracker.poll index).1.Watchful := by
  intro rests
  rcases List.mem_or_eq_of_mem_set rests with before | polled
  · exact watchful before
  · rcases Waiter.poll_eq_resting polled.symm with rested | positive
    · apply watchful
      rw [← rested]
      exact waiter_mem (by simp [rested])
    · exact positive

theorem Watchful.drop (watchful : tracker.Watchful) (index : Nat) :
    (tracker.drop index).Watchful := by
  intro rests
  rcases List.mem_or_eq_of_mem_set rests with before | dropped
  · exact watchful before
  · cases dropped

theorem Watchful.step {step : TrackerStep} (watchful : tracker.Watchful)
    (room : step = .begin → tracker.count.toNat + 1 < UInt64.size) : (tracker.step step).1.Watchful := by
  cases step with
  | begin => exact watchful_begin (room rfl)
  | finish => exact watchful_finish tracker
  | wait => exact watchful.wait
  | poll index => exact watchful.poll index
  | drop index => exact watchful.drop index

/-- A poll of a watchful tracker answers by the count. -/
theorem Watchful.poll_eq (watchful : tracker.Watchful) {index : Nat}
    (waits : tracker.waiter index ≠ .finished) :
    (tracker.poll index).2 = if tracker.count = 0 then .ready else .pending := by
  apply Waiter.poll_of_awake waits
  intro rests
  exact watchful (rests ▸ waiter_mem waits)

theorem watchful_start : start.Watchful := by
  simp [Watchful, start]

/-! ## Sequences of steps -/

/-- The tracker after a sequence of steps. -/
def after (tracker : Tracker) (steps : List TrackerStep) : Tracker :=
  steps.foldl (fun tracker step => (tracker.step step).1) tracker

@[simp] theorem after_concat (tracker : Tracker) (steps : List TrackerStep) (step : TrackerStep) :
    tracker.after (steps ++ [step]) = ((tracker.after steps).step step).1 := by
  simp [after]

/-- What a run shows of each step: the count after it, and what it says. -/
theorem getElem?_run (tracker : Tracker) (steps : List TrackerStep) (index : Nat) :
    (tracker.run steps)[index]? = steps[index]?.map fun step =>
      (((tracker.after (steps.take index)).step step).1.count,
        ((tracker.after (steps.take index)).step step).2) := by
  induction steps generalizing tracker index with
  | nil => rfl
  | cons step steps ih =>
    cases index with
    | zero => rfl
    | succ index => exact ih (tracker.step step).1 index

/-- One step counts as it says, modulo the size of a word. -/
theorem toNat_count_step (tracker : Tracker) (step : TrackerStep) :
    ((tracker.step step).1.count.toNat : Int) =
      (tracker.count.toNat + [step].count .begin - [step].count .finish) % UInt64.size := by
  have bound := tracker.count.toNat_lt
  unfold UInt64.size
  cases step with
  | begin =>
    rw [List.count_singleton_self, List.count_eq_zero.2 (by simp), Tracker.step, begin,
      UInt64.toNat_add, UInt64.toNat_one]
    omega
  | finish =>
    rw [List.count_singleton_self, List.count_eq_zero.2 (by simp), Tracker.step, Tracker.finish,
      UInt64.toNat_sub, UInt64.toNat_one]
    omega
  | wait | poll _ | drop _ =>
    rw [List.count_eq_zero.2 (by simp), List.count_eq_zero.2 (by simp)]
    simp only [Tracker.step, Tracker.wait, poll, drop]
    omega

/-- The count is that of the begun connections less the ended ones, modulo the size of a
word. -/
theorem toNat_count_after (steps : List TrackerStep) :
    ((start.after steps).count.toNat : Int) =
      ((steps.count .begin : Int) - steps.count .finish) % UInt64.size := by
  induction steps using List.reverseRecOn with
  | nil => rfl
  | append_singleton steps step ih =>
    rw [after_concat, toNat_count_step, ih, List.count_append, List.count_append]
    unfold UInt64.size
    omega

theorem length_waiters_after (steps : List TrackerStep) :
    (start.after steps).waiters.length = steps.count .wait := by
  induction steps using List.reverseRecOn with
  | nil => rfl
  | append_singleton steps step ih =>
    rw [after_concat, List.count_append, ← ih]
    cases step with
    | begin | poll _ | drop _ => simp [Tracker.step, begin, poll, drop]
    | finish => simp [Tracker.step, length_waiters_finish]
    | wait => simp [Tracker.step, Tracker.wait]

/-- Connections end only after they began: no beginning of a sequence has more ends than
beginnings. -/
def Balanced (steps : List TrackerStep) : Prop :=
  ∀ reached, reached <+: steps → reached.count .finish ≤ reached.count .begin

instance : DecidablePred Balanced := fun steps =>
  decidable_of_iff (∀ reached ∈ steps.inits, reached.count .finish ≤ reached.count .begin) <| by
    simp only [Balanced, List.mem_inits]

theorem Balanced.of_isPrefix {reached : List TrackerStep} (balanced : Balanced steps)
    (begins : reached <+: steps) : Balanced reached :=
  fun earlier within => balanced earlier (within.trans begins)

/-- While connections end only after they began and the count does not wrap, every waiter
that rests has a connection to wait for. -/
theorem watchful_after (balanced : Balanced steps) (few : steps.count .begin < UInt64.size) :
    (start.after steps).Watchful := by
  induction steps using List.reverseRecOn with
  | nil => exact watchful_start
  | append_singleton steps step ih =>
    have begins : steps <+: steps ++ [step] := List.prefix_append _ _
    rw [List.count_append] at few
    rw [after_concat]
    refine (ih (balanced.of_isPrefix begins) (by omega)).step ?_
    rintro rfl
    have counted := toNat_count_after steps
    have ended := balanced steps begins
    rw [List.count_singleton_self] at few
    unfold UInt64.size at few counted ⊢
    omega

/-- A waiter waits after a sequence of steps: it was made, and since then it was neither
dropped nor told that it is ready. -/
inductive Waits : List TrackerStep → Nat → Prop where
  | made (steps : List TrackerStep) : Waits (steps ++ [.wait]) (steps.count .wait)
  | kept {steps : List TrackerStep} {step : TrackerStep} {waiter : Nat}
      (waits : Waits steps waiter) (undropped : step ≠ .drop waiter)
      (unready : step = .poll waiter → ((start.after steps).poll waiter).2 ≠ .ready) :
      Waits (steps ++ [step]) waiter

theorem waiter_after_ne_finished_iff {index : Nat} :
    (start.after steps).waiter index ≠ .finished ↔ Waits steps index := by
  constructor
  · intro waits
    induction steps using List.reverseRecOn with
    | nil => exact absurd rfl waits
    | append_singleton steps step ih =>
      rw [after_concat, waiter_step_ne_finished_iff] at waits
      rcases waits with ⟨rfl, rfl⟩ | ⟨waits, undropped, unready⟩
      · rw [length_waiters_after]
        exact .made steps
      · exact .kept (ih waits) undropped unready
  · intro waits
    induction waits with
    | made steps =>
      rw [after_concat, waiter_step_ne_finished_iff, length_waiters_after]
      exact .inl ⟨rfl, rfl⟩
    | kept _ undropped unready ih =>
      rw [after_concat, waiter_step_ne_finished_iff]
      exact .inr ⟨ih, undropped, unready⟩

/-! ## What a run shows -/

theorem exists_step_of_run {index : Nat} {count : UInt64} {said : Option Poll}
    (shown : (start.run steps)[index]? = some (count, said)) :
    ∃ step, steps[index]? = some step ∧
      ((start.after (steps.take index)).step step).1.count = count ∧
      ((start.after (steps.take index)).step step).2 = said := by
  rw [getElem?_run, Option.map_eq_some_iff] at shown
  obtain ⟨step, listed, same⟩ := shown
  rw [Prod.mk.injEq] at same
  exact ⟨step, listed, same.1, same.2⟩

/-- Only a poll makes a waiter ready, and only while no connection is open. -/
theorem step_eq_ready {step : TrackerStep} (ready : (tracker.step step).2 = some .ready) :
    (∃ waiter, step = .poll waiter) ∧ (tracker.step step).1.count = 0 := by
  cases step with
  | poll waiter => exact ⟨⟨waiter, rfl⟩, Waiter.poll_eq_ready (Option.some.inj ready)⟩
  | begin | finish | wait | drop _ => cases ready

/-- Waiting is exact. In every sequence of steps the count is that of the begun connections
less the ended ones modulo the size of a word, a waiter becomes ready only at a poll and at
the count zero, and only a waiter that does not wait any more is told that it is finished.
As long as connections end only after they began and fewer begin than a word counts, at the
count zero every pending waiter is notified, and every poll of a waiter that waits answers
by the count at that moment. -/
theorem run_exact (steps : List TrackerStep) :
    (∀ index count said, (start.run steps)[index]? = some (count, said) →
      (count.toNat : Int) = (((steps.take (index + 1)).count .begin : Int) -
        (steps.take (index + 1)).count .finish) % UInt64.size ∧
      (said = some .ready → (∃ waiter, steps[index]? = some (.poll waiter)) ∧ count = 0) ∧
      ∀ waiter, steps[index]? = some (.poll waiter) →
        (said = some .finished ↔ ¬ Waits (steps.take index) waiter)) ∧
    (Balanced steps → steps.count .begin < UInt64.size →
      (∀ reached, reached <+: steps → (start.after reached).count = 0 →
        ∀ waiter ∈ (start.after reached).waiters, waiter.isPending = true → waiter = .notified) ∧
      ∀ index waiter, steps[index]? = some (.poll waiter) → Waits (steps.take index) waiter →
        ∃ count, (start.run steps)[index]? =
          some (count, some (if count = 0 then .ready else .pending))) := by
  constructor
  · intro index count said shown
    obtain ⟨step, listed, rfl, rfl⟩ := exists_step_of_run shown
    refine ⟨?_, ?_, ?_⟩
    · rw [← after_concat, toNat_count_after, List.take_add_one, listed]
      rfl
    · intro ready
      obtain ⟨⟨waiter, rfl⟩, none⟩ := step_eq_ready ready
      exact ⟨⟨waiter, listed⟩, none⟩
    · intro waiter polled
      rw [listed, Option.some.injEq] at polled
      subst polled
      rw [← waiter_after_ne_finished_iff, not_not]
      exact Option.some_inj.trans Waiter.poll_eq_finished_iff
  · intro balanced few
    have watchful : ∀ reached, reached <+: steps → (start.after reached).Watchful := by
      intro reached begins
      exact watchful_after (balanced.of_isPrefix begins)
        (Nat.lt_of_le_of_lt (begins.sublist.count_le _) few)
    constructor
    · intro reached begins none waiter within pending
      cases waiter with
      | notified => rfl
      | resting => exact absurd none (watchful reached begins within)
      | fresh | finished => cases pending
    · intro index waiter listed waits
      have answer := (watchful _ (List.take_prefix index steps)).poll_eq
        (waiter_after_ne_finished_iff.2 waits)
      refine ⟨(start.after (steps.take index)).count, ?_⟩
      rw [getElem?_run, listed, ← answer]
      rfl

/-- A waiter that was notified, and finds at its next poll that a connection is open again. -/
theorem run_exact_of_reopened :
    Balanced [.begin, .wait, .poll 0, .finish, .begin, .poll 0] ∧
    Waits [.begin, .wait, .poll 0, .finish, .begin] 0 ∧
    ∃ count, (start.run [.begin, .wait, .poll 0, .finish, .begin, .poll 0])[5]? =
      some (count, some (if count = 0 then .ready else .pending)) := by
  have balanced : Balanced [.begin, .wait, .poll 0, .finish, .begin, .poll 0] := by decide
  have waits : Waits [.begin, .wait, .poll 0, .finish, .begin] 0 :=
    waiter_after_ne_finished_iff.1 (by decide)
  exact ⟨balanced, waits, ((run_exact _).2 balanced (by decide)).2 5 0 rfl waits⟩

end Tracker

end Replay
