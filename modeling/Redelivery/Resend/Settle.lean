import Redelivery.Resend.Event

/-!
# One way to run the service

A run in which every save and every message that is sent is answered by given
surroundings, and in which tasks take turns: all that is ready does as much as
it can, one after the other, and what becomes ready on the way waits for the
next turn.
-/

namespace Redelivery

/-- What answers the service. -/
structure Surroundings (ε : Type) where
  save : ε → Ledger → Bool × ε
  /-- The status, if any, that is reported at once for the key of a message that
  is sent. -/
  reply : ε → Record → Option DeliveryStatus × ε

namespace Service

variable {ε : Type}

def takeReply (s : Service) (r : Record) : Option DeliveryStatus → Service
  | none => s
  | some status => s.step (.report ⟨r.payload.keyId⟩ status)

/-- Lets a task do its next piece, with the answer of the surroundings. -/
def resumeIn (w : Surroundings ε) (s : Service) (e : ε) (task : Nat)
    (routine : Routine) :
    Service × ε :=
  match routine with
  | .write copy _ =>
    let (saved, e) := w.save e copy
    (s.step (.resume task saved), e)
  | .send r _ =>
    let (status, e) := w.reply e r
    ((s.step (.resume task true)).takeReply r status, e)
  | _ => (s.step (.resume task true), e)

/-- Lets a task do as much as it can, in at most so many pieces. -/
def exhaust (w : Surroundings ε) : Nat → Service → ε → Nat → Service × ε
  | 0, s, e, _ => (s, e)
  | pieces + 1, s, e, task =>
    match s.tasks.get? task with
    | none => (s, e)
    | some routine =>
      if s.isReady routine then
        let (s, e) := s.resumeIn w e task routine
        exhaust w pieces s e task
      else (s, e)

def turnLength : Nat := 1000000

def mostTurns : Nat := 1000000

/-- Ends the wait of a timer and lets the task that it starts do as much as it
can. -/
def wakeIn (w : Surroundings ε) (s : Service) (e : ε) (generation : Nat) :
    Service × ε :=
  (s.step (.wake generation)).exhaust w turnLength e s.nextTask

/-- Lets all that is ready do as much as it can: timers first, then tasks. -/
def turn (w : Surroundings ε) (s : Service) (e : ε) : Service × ε :=
  let ready := (s.tasks.toList.filter fun t => s.isReady t.2).map Prod.fst
  let wakeOne (p : Service × ε) (generation : Nat) :=
    p.1.wakeIn w p.2 generation
  let resumeOne (p : Service × ε) (task : Nat) :=
    p.1.exhaust w turnLength p.2 task
  ready.foldl resumeOne ((s.scheduler.due s.clock).foldl wakeOne (s, e))

/-- Takes turns until nothing is ready. -/
def settle (w : Surroundings ε) : Nat → Service → ε → Service × ε
  | 0, s, e => (s, e)
  | turns + 1, s, e =>
    if s.atRest then (s, e)
    else
      let (s, e) := s.turn w e
      settle w turns s e

def rest (w : Surroundings ε) (s : Service) (e : ε) : Service × ε :=
  s.settle w mostTurns e

/-- Lets something happen, then the task that it starts do as much as it can,
and then all else; with the answer of that task. -/
def perform (w : Surroundings ε) (s : Service) (e : ε) (event : Event) :
    Nat × Service × ε :=
  let task := s.nextTask
  let (s, e) := (s.step event).exhaust w turnLength e task
  let (s, e) := s.rest w e
  (((s.tasks.get? task).bind Routine.answer?).getD 0, s, e)

def nextDue? (s : Service) : Option Nat :=
  let debounces := s.tasks.values.filterMap fun
    | .debounce _ due => some due
    | _ => none
  (s.scheduler.nextDue?.toList ++ debounces).min?

/-- Lets time pass up to `target`, stopping wherever something falls due, at
most so many times. -/
def passTo (w : Surroundings ε) (target : Nat) : Nat → Service → ε → Service × ε
  | 0, s, e => (s, e)
  | stops + 1, s, e =>
    match s.nextDue? with
    | some due =>
      if due ≤ target then
        let (s, e) := (s.step (.pass (due - s.clock))).rest w e
        passTo w target stops s e
      else (s.step (.pass (target - s.clock)), e)
    | none => (s.step (.pass (target - s.clock)), e)

def pass (w : Surroundings ε) (s : Service) (e : ε) (millis : Nat) :
    Service × ε :=
  s.passTo w (s.clock + millis) mostTurns e

/-- What was sent since the service was as it was `before`, by time and then by
key. -/
def sentSince (s before : Service) : List Dispatch :=
  (s.outbox.drop before.outbox.length).mergeSort fun a b =>
    (compare a.time b.time
      |>.then (compare a.record.payload.keyId b.record.payload.keyId)).isLE

end Service

end Redelivery
