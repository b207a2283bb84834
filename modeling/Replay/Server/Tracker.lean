/-!
# Connection trackers

A tracker counts open connections in a word of sixty-four bits and lets any
number of waiters wait until there are none. A waiter looks at the count when it
is polled for the first time and after every notification; in between it rests.
The last connection to end notifies the waiters that rest at that moment and no
others. A waiter that finds connections open rests again.
-/

namespace Replay

/-- What a waiter is doing. -/
inductive Waiter where
  /-- It was never polled. -/
  | fresh
  /-- It found connections open and rests. -/
  | resting
  /-- It rested and was notified. -/
  | notified
  /-- It found no connection open, or was dropped. -/
  | finished
deriving DecidableEq

/-- What a poll says. -/
inductive Poll where
  | pending
  | ready
  /-- The waiter was finished before. -/
  | finished
deriving DecidableEq

/-- What can happen to a tracker. -/
inductive TrackerStep where
  /-- A connection begins. -/
  | begin
  /-- A connection ends. -/
  | finish
  /-- A waiter is made; waiters are numbered from zero. -/
  | wait
  /-- A waiter is polled. -/
  | poll (waiter : Nat)
  /-- A waiter is dropped. -/
  | drop (waiter : Nat)
deriving DecidableEq

/-- The number of open connections, and the waiters in the order they were made. -/
structure Tracker where
  count : UInt64
  waiters : List Waiter
deriving DecidableEq

namespace Waiter

/-- A notification reaches only a waiter that rests. -/
def notify : Waiter → Waiter
  | .resting => .notified
  | waiter => waiter

/-- What a waiter does and says when it is polled while so many connections are open. -/
def poll (count : UInt64) : Waiter → Waiter × Poll
  | .fresh | .notified => if count = 0 then (.finished, .ready) else (.resting, .pending)
  | .resting => (.resting, .pending)
  | .finished => (.finished, .finished)

end Waiter

namespace Tracker

/-- No connections, no waiters. -/
def start : Tracker := ⟨0, []⟩

/-- A connection begins. -/
def begin (tracker : Tracker) : Tracker :=
  { tracker with count := tracker.count + 1 }

/-- A connection ends. Only the last one notifies. -/
def finish (tracker : Tracker) : Tracker :=
  { count := tracker.count - 1
    waiters :=
      if tracker.count = 1 then tracker.waiters.map Waiter.notify else tracker.waiters }

/-- Make a waiter. -/
def wait (tracker : Tracker) : Tracker :=
  { tracker with waiters := tracker.waiters ++ [.fresh] }

/-- The waiter with a number; one that was never made counts as finished. -/
def waiter (tracker : Tracker) (index : Nat) : Waiter :=
  tracker.waiters.getD index .finished

/-- Poll a waiter. -/
def poll (tracker : Tracker) (index : Nat) : Tracker × Poll :=
  let (waiter, said) := (tracker.waiter index).poll tracker.count
  ({ tracker with waiters := tracker.waiters.set index waiter }, said)

/-- Drop a waiter. -/
def drop (tracker : Tracker) (index : Nat) : Tracker :=
  { tracker with waiters := tracker.waiters.set index .finished }

/-- One step, and what a poll says. -/
def step (tracker : Tracker) : TrackerStep → Tracker × Option Poll
  | .begin => (tracker.begin, none)
  | .finish => (tracker.finish, none)
  | .wait => (tracker.wait, none)
  | .poll index =>
    let (tracker, said) := tracker.poll index
    (tracker, some said)
  | .drop index => (tracker.drop index, none)

/-- The count after each of a sequence of steps, and what each poll says. -/
def run (tracker : Tracker) : List TrackerStep → List (UInt64 × Option Poll)
  | [] => []
  | step :: steps =>
    let (tracker, said) := tracker.step step
    (tracker.count, said) :: tracker.run steps

end Tracker

end Replay
