import Replay.Proofs.Server.Tracker

/-!
# Waiters among themselves

No waiter disturbs another one, whatever becomes of it: polled often or never, resting,
notified or dropped. A run is compared with the run from which the polls and the drop of
one waiter are left out. `AgreeBut` holds of the trackers of the two runs at every step that
both take, and it is kept by every step, also where the count wraps.
-/

namespace Replay

/-- A step of a waiter's own polls it or drops it. -/
def TrackerStep.isOf (waiter : Nat) : TrackerStep → Bool
  | .poll polled => polled == waiter
  | .drop dropped => dropped == waiter
  | .begin | .finish | .wait => false

namespace Tracker

variable {waiter : Nat} {left right : Tracker}

/-- A sequence of steps without those of a waiter's own. -/
def without (waiter : Nat) (steps : List TrackerStep) : List TrackerStep :=
  steps.filter fun step => !step.isOf waiter

theorem without_cons_of_own {step : TrackerStep} {steps : List TrackerStep}
    (own : step.isOf waiter = true) :
    without waiter (step :: steps) = without waiter steps := by
  simp [without, own]

theorem without_cons_of_other {step : TrackerStep} {steps : List TrackerStep}
    (other : step.isOf waiter = false) :
    without waiter (step :: steps) = step :: without waiter steps := by
  simp [without, other]

/-- What a run shows of the steps that are not a waiter's own. -/
def shownWithout (waiter : Nat) (tracker : Tracker) (steps : List TrackerStep) :
    List (UInt64 × Option Poll) :=
  ((steps.zip (tracker.run steps)).filter fun shown => !shown.1.isOf waiter).map Prod.snd

/-- Two trackers agree on everything but what one waiter is doing. -/
structure AgreeBut (waiter : Nat) (left right : Tracker) : Prop where
  count : left.count = right.count
  made : left.waiters.length = right.waiters.length
  others : ∀ other, other ≠ waiter → left.waiter other = right.waiter other

namespace AgreeBut

theorem refl (waiter : Nat) (tracker : Tracker) : AgreeBut waiter tracker tracker :=
  ⟨rfl, rfl, fun _ _ => rfl⟩

/-- A step that both trackers take changes the other waiters alike: what it does to a waiter
depends on the count and on that waiter, and the number of a new one on how many were made. -/
theorem step (agree : AgreeBut waiter left right) (step : TrackerStep) :
    AgreeBut waiter (left.step step).1 (right.step step).1 := by
  obtain ⟨count, made, others⟩ := agree
  cases step with
  | begin => exact ⟨congrArg (· + 1) count, made, others⟩
  | finish =>
    refine ⟨congrArg (· - 1) count, ?_, fun other apart => ?_⟩
    · simp only [Tracker.step, length_waiters_finish, made]
    · simp only [Tracker.step, waiter_finish, count, others other apart]
  | wait =>
    refine ⟨count, ?_, fun other apart => ?_⟩
    · simp only [Tracker.step, Tracker.wait, List.length_append, made]
    · simp only [Tracker.step, waiter_wait, made, others other apart]
  | poll polled =>
    refine ⟨count, ?_, fun other apart => ?_⟩
    · simp only [Tracker.step, Tracker.poll, List.length_set, made]
    · simp only [Tracker.step, waiter_poll, count, others other apart]
  | drop dropped =>
    refine ⟨count, ?_, fun other apart => ?_⟩
    · simp only [Tracker.step, Tracker.drop, List.length_set, made]
    · simp only [Tracker.step, waiter_drop, others other apart]

/-- A step of the waiter's own is not noticed by the others. -/
theorem own_step {step : TrackerStep} (agree : AgreeBut waiter left right)
    (own : step.isOf waiter = true) :
    AgreeBut waiter (left.step step).1 right := by
  obtain ⟨count, made, others⟩ := agree
  cases step with
  | begin | finish | wait => cases own
  | poll polled =>
    obtain rfl : polled = waiter := beq_iff_eq.1 own
    refine ⟨count, ?_, fun other apart => ?_⟩
    · simp only [Tracker.step, Tracker.poll, List.length_set, made]
    · simp only [Tracker.step, waiter_poll, if_neg apart.symm, others other apart]
  | drop dropped =>
    obtain rfl : dropped = waiter := beq_iff_eq.1 own
    refine ⟨count, ?_, fun other apart => ?_⟩
    · simp only [Tracker.step, Tracker.drop, List.length_set, made]
    · simp only [Tracker.step, waiter_drop, if_neg apart.symm, others other apart]

/-- Another waiter is told the same by both trackers. -/
theorem said_eq {step : TrackerStep} (agree : AgreeBut waiter left right)
    (other : step.isOf waiter = false) :
    (left.step step).2 = (right.step step).2 := by
  cases step with
  | begin | finish | wait | drop _ => rfl
  | poll polled =>
    have apart : polled ≠ waiter := beq_eq_false_iff_ne.1 other
    simp only [Tracker.step, Tracker.poll, agree.count, agree.others polled apart]

/-- Runs of trackers that agree show the same of all steps but the waiter's own, and end in
trackers that agree. -/
theorem run (agree : AgreeBut waiter left right) (steps : List TrackerStep) :
    right.run (without waiter steps) = shownWithout waiter left steps ∧
      AgreeBut waiter (left.after steps) (right.after (without waiter steps)) := by
  induction steps generalizing left right with
  | nil => exact ⟨rfl, agree⟩
  | cons step steps ih =>
    cases own : step.isOf waiter with
    | true =>
      obtain ⟨shown, reached⟩ := ih (agree.own_step own)
      rw [without_cons_of_own own, shown]
      refine ⟨?_, reached⟩
      simp [shownWithout, Tracker.run, own]
    | false =>
      have stepped := agree.step step
      obtain ⟨shown, reached⟩ := ih stepped
      rw [without_cons_of_other own]
      refine ⟨?_, reached⟩
      simp only [Tracker.run, shown, ← stepped.count, ← agree.said_eq own]
      simp [shownWithout, Tracker.run, own]

end AgreeBut

/-- Waiters do not interfere. Take the polls and the drop of one waiter out of any sequence
of steps: each step that remains is followed by the same count and says the same, and in the
end every other waiter is doing the same. So what the one waiter did has taken no
notification from another one, and given none to it. -/
theorem run_without (tracker : Tracker) (waiter : Nat) (steps : List TrackerStep) :
    tracker.run (without waiter steps) = shownWithout waiter tracker steps ∧
    (tracker.after (without waiter steps)).count = (tracker.after steps).count ∧
    ∀ other, other ≠ waiter →
      (tracker.after (without waiter steps)).waiter other = (tracker.after steps).waiter other := by
  obtain ⟨shown, agree⟩ := (AgreeBut.refl waiter tracker).run steps
  exact ⟨shown, agree.count.symm, fun other apart => (agree.others other apart).symm⟩

/-- Two waiters rest while the count wraps and comes back to zero. The first one is dropped
with its notification; the second one still has its own. -/
theorem run_without_of_dropped :
    let steps : List TrackerStep :=
      [.wait, .wait, .finish, .poll 0, .poll 1, .begin, .begin, .finish, .drop 0, .poll 1]
    without 0 steps = [.wait, .wait, .finish, .poll 1, .begin, .begin, .finish, .poll 1] ∧
    start.run (without 0 steps) = shownWithout 0 start steps ∧
    (start.after (without 0 steps)).count = (start.after steps).count ∧
    (1 ≠ 0 ∧ (start.after (without 0 steps)).waiter 1 = (start.after steps).waiter 1) ∧
    (start.run steps).getLast? = some (0, some .ready) := by
  intro steps
  obtain ⟨shown, count, others⟩ := run_without start 0 steps
  exact ⟨rfl, shown, count, ⟨Nat.one_ne_zero, others 1 Nat.one_ne_zero⟩, by decide⟩

end Tracker

end Replay
