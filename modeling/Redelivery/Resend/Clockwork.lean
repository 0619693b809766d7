import Redelivery.Resend.Scheduler

/-!
# Timers under a clock

What can be asked of the timers and what else happens to them, one thing at a
time, each with what comes back.  A run is any sequence of such calls, so a
statement about all runs says what the answers are worth in whatever order the
calls come.
-/

namespace Redelivery

namespace Scheduler

/-- One thing that is asked of the timers, or happens to them. -/
inductive Call where
  | arm (id : MessageId) (delay : UInt64)
  | cancel (id : MessageId)
  | cancelAll
  | complete (id : MessageId) (generation : Nat)
  | pass (millis : Nat)
  /-- What waits for the time of a generation acts, if its time has come. -/
  | wake (generation : Nat)
deriving DecidableEq

inductive Reply where
  | generation (number : Nat)
  | answer (found : Bool)
  | count (number : Nat)
  | nothing
deriving DecidableEq

/-- Cancels the timers of some messages, and counts those that there were. -/
def cancelCounting (s : Scheduler) : List MessageId → Nat × Scheduler
  | [] => (0, s)
  | id :: rest =>
    let (count, left) := (s.cancel id).cancelCounting rest
    (if s.isArmed id then count + 1 else count, left)

def isDue (s : Scheduler) (now generation : Nat) : Bool :=
  (s.sleepers.get? generation).any fun sleeper => sleeper.due ≤ now

end Scheduler

/-- Timers, and the clock that they go by. -/
structure Clockwork where
  scheduler : Scheduler
  /-- In milliseconds. -/
  clock : Nat
deriving DecidableEq, Inhabited

namespace Clockwork

open Scheduler (Call Reply)

def start : Clockwork := ⟨.empty, 0⟩

def call (c : Clockwork) : Call → Reply × Clockwork
  | .arm id delay =>
    (.generation c.scheduler.nextGeneration,
      { c with scheduler := c.scheduler.arm c.clock id delay })
  | .cancel id =>
    (.answer (c.scheduler.isArmed id),
      { c with scheduler := c.scheduler.cancel id })
  | .cancelAll =>
    let (count, left) := c.scheduler.cancelCounting c.scheduler.timers.keys
    (.count count, { c with scheduler := left })
  | .complete id generation =>
    (.answer (c.scheduler.isCurrent id generation),
      { c with scheduler := c.scheduler.complete id generation })
  | .pass millis => (.nothing, { c with clock := c.clock + millis })
  | .wake generation =>
    if c.scheduler.isDue c.clock generation then
      (.answer true, { c with scheduler := c.scheduler.wake generation })
    else (.answer false, c)

def run (c : Clockwork) (calls : List Call) : Clockwork :=
  calls.foldl (fun c asked => (c.call asked).2) c

/-- What everything does whose time has come, the earliest first: it acts, and
claims its place. -/
def dueCalls (c : Clockwork) : List Call :=
  let ready := c.scheduler.sleepers.toList.filter fun e => e.2.due ≤ c.clock
  (ready.mergeSort fun a b => a.2.due ≤ b.2.due).flatMap fun e =>
    [.wake e.1, .complete e.2.id e.1]

/-- Some calls, each with what came back from it. -/
def history (c : Clockwork) : List Call → List (Call × Reply)
  | [] => []
  | asked :: rest => (asked, (c.call asked).1) :: (c.call asked).2.history rest

end Clockwork

end Redelivery
