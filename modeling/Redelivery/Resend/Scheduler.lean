import Redelivery.Ledger.MessageId
import Redelivery.Sleep
import Redelivery.Table

/-!
# Timers

At most one timer is armed for each message.  Every timer has a generation of
its own; when its time has come it has to claim its place by that generation,
which fails if the timer was replaced or cancelled in between.  Its time comes
after the delay for which it was set, or after the longest sleep.
-/

namespace Redelivery

/-- The timer that is armed for a message. -/
structure Timer where
  generation : Nat
  /-- How long it was set for, in milliseconds. -/
  delay : UInt64
deriving DecidableEq, Inhabited

/-- What waits for the time of a timer. -/
structure Sleeper where
  id : MessageId
  /-- When its time has come. -/
  due : Nat
deriving DecidableEq, Inhabited

/-- The armed timers by message, and what waits for their time by generation. -/
structure Scheduler where
  timers : Table MessageId Timer
  sleepers : Table Nat Sleeper
  /-- The generation of the next timer.  A counter of 64 bits shows the same as
  long as fewer than 2 ^ 64 timers have been armed. -/
  nextGeneration : Nat
deriving DecidableEq, Inhabited

namespace Scheduler

def empty : Scheduler := ⟨.empty, .empty, 0⟩

def isArmed (s : Scheduler) (id : MessageId) : Bool :=
  s.timers.contains id

def armedDelay? (s : Scheduler) (id : MessageId) : Option UInt64 :=
  (s.timers.get? id).map Timer.delay

def cancel (s : Scheduler) (id : MessageId) : Scheduler :=
  match s.timers.get? id with
  | none => s
  | some timer =>
    { s with
      timers := s.timers.erase id,
      sleepers := s.sleepers.erase timer.generation }

/-- Arms a timer for a message in the place of the one that it has; its
generation is the next one. -/
def arm (s : Scheduler) (now : Nat) (id : MessageId) (delay : UInt64) :
    Scheduler :=
  let cleared := s.cancel id
  let generation := s.nextGeneration
  { timers := cleared.timers.insert id ⟨generation, delay⟩
    sleepers :=
      cleared.sleepers.insert generation ⟨id, now + sleepTime delay.toNat⟩
    nextGeneration := generation + 1 }

def isCurrent (s : Scheduler) (id : MessageId) (generation : Nat) : Bool :=
  (s.timers.get? id).any fun timer => timer.generation == generation

/-- Claims the place of a timer whose time has come.  What waits for its time
goes on waiting. -/
def complete (s : Scheduler) (id : MessageId) (generation : Nat) : Scheduler :=
  if s.isCurrent id generation then { s with timers := s.timers.erase id }
  else s

def cancelAll (s : Scheduler) : Scheduler :=
  s.timers.keys.foldl cancel s

/-- The generations whose time has come. -/
def due (s : Scheduler) (now : Nat) : List Nat :=
  (s.sleepers.toList.filter fun e => e.2.due ≤ now).map Prod.fst

def nextDue? (s : Scheduler) : Option Nat :=
  (s.sleepers.values.map Sleeper.due).min?

def wake (s : Scheduler) (generation : Nat) : Scheduler :=
  { s with sleepers := s.sleepers.erase generation }

/-- A timer whose time has come, and whether it still had its place. -/
structure Firing where
  time : Nat
  id : MessageId
  generation : Nat
  claimed : Bool
deriving DecidableEq

def Firing.isBefore (a b : Firing) : Bool :=
  (compare a.time b.time |>.then (compare a.id b.id) |>.then
    (compare a.generation b.generation)).isLE

/-- Lets one timer whose time has come claim its place. -/
def fireOne (s : Scheduler) (generation : Nat) (sleeper : Sleeper) :
    Firing × Scheduler :=
  let claimed := s.isCurrent sleeper.id generation
  (⟨sleeper.due, sleeper.id, generation, claimed⟩,
    (s.wake generation).complete sleeper.id generation)

/-- Lets every timer whose time has come by `now` claim its place, the earliest
first. -/
def fireDue (s : Scheduler) (now : Nat) : List Firing × Scheduler :=
  let ready := s.sleepers.toList.filter fun e => e.2.due ≤ now
  let ordered := ready.mergeSort fun a b => a.2.due ≤ b.2.due
  let step (acc : List Firing × Scheduler) (e : Nat × Sleeper) :
      List Firing × Scheduler :=
    let (firing, s) := acc.2.fireOne e.1 e.2
    (acc.1 ++ [firing], s)
  let (firings, s) := ordered.foldl step ([], s)
  (firings.mergeSort Firing.isBefore, s)

end Scheduler

end Redelivery
