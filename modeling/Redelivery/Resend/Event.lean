import Redelivery.Resend.Service

/-!
# What happens to the service

Everything that can happen, one thing at a time: somebody calls an operation,
the source or a node changes, time passes, a timer's time comes, or a task does
its next piece.  Any order of events is a run, so a statement about all runs
covers every way in which tasks can be interleaved.
-/

namespace Redelivery

/-- One thing that happens. -/
inductive Event where
  /-- A message that was sent is handed over, or one that is tracked with a new
  status. -/
  | register (record : Record)
  | resend (id : MessageId)
  | sweep
  | start
  | shutdown
  | report (id : MessageId) (status : DeliveryStatus)
  | forget (id : MessageId)
  | setNode (transport : Transport) (state : NodeState)
  | pass (millis : Nat)
  | setCalendar (now : UInt64)
  /-- The time of a timer has come. -/
  | wake (generation : Nat)
  /-- A task does its next piece; if that is the end of a save, `saved` says
  whether the save takes place. -/
  | resume (task : Nat) (saved : Bool)
deriving DecidableEq

inductive StartError where
  | alreadyStarted
  | shutDown
deriving DecidableEq

def StartError.message : StartError → String
  | alreadyStarted => "Resend service already initialised"
  | shutDown => "Resend service has been shut down"

namespace Service

/-! ## Operations -/

/-- Begins to listen for ids, to follow what is tracked, and to watch the
nodes. -/
def start? (s : Service) : Except StartError Service :=
  if s.shutDown then .error .shutDown
  else if s.started then .error .alreadyStarted
  else
    let attached := { s with started := true }.attachKnown
    let launch (s : Service) (routine : Routine) : Service :=
      { s.spawn routine with background := s.background ++ [s.nextTask] }
    let observers :=
      s.nodes.watch.map fun c => Routine.observe { c with seen := none }
    .ok ((Routine.listen s.source.announced.size :: observers).foldl
      launch attached)

/-- Ends all that runs in the background, every subscription and every timer. -/
def shutdown (s : Service) : Service :=
  if s.shutDown then s
  else
    let aborted := (s.background ++ s.subscriptions.values).foldl abort s
    { aborted with
      shutDown := true
      background := []
      subscriptions := .empty
      scheduler := s.scheduler.cancelAll }

def register (s : Service) (r : Record) : Service :=
  if s.shutDown then s.spawn (.answer 0)
  else
    let applied := (s.spawn (.save (.answer 0))).apply r none
    if (r.status.classify s.config).detach then applied else applied.attach r.id

def resend (s : Service) (id : MessageId) : Service :=
  if s.shutDown then s.spawn (.answer 0)
  else
    match s.claim id .manual false with
    | none => s.spawn (.answer 0)
    | some (r, claimed) => claimed.spawn (.save (.send r (.answer 1)))

def sweep (s : Service) : Service :=
  s.spawn (.sweep s.candidates 0 none)

/-! ## Timers -/

def fire (s : Service) (id : MessageId) (generation : Nat) : Service :=
  if s.shutDown || !s.scheduler.isCurrent id generation then s
  else
    let completed := { s with scheduler := s.scheduler.complete id generation }
    match completed.claim id .automatic false with
    | none => completed
    | some (r, claimed) => claimed.spawn (.save (.send r .stop))

/-- Ends the wait of a timer, if its time has come. -/
def wake (s : Service) (generation : Nat) : Service :=
  match s.scheduler.sleepers.get? generation with
  | none => s
  | some sleeper =>
    if sleeper.due ≤ s.clock then
      { s with scheduler := s.scheduler.wake generation }.fire sleeper.id
        generation
    else s

/-! ## Tasks -/

def isWriting (s : Service) : Bool :=
  s.tasks.values.any Routine.isWriting

/-- Whether a task with a routine has something to do. -/
def isReady (s : Service) : Routine → Bool
  | .answer _ | .stop => false
  | .save _ => !s.isWriting
  | .write .. | .send .. | .sweep .. => true
  | .follow cursor =>
    (s.source.unseen? cursor).isSome || (s.source.open? cursor).isNone
  | .listen position => position < s.source.announced.size
  | .observe cursor => (s.nodes.unseen? cursor).isSome
  | .debounce _ due => due ≤ s.clock

/-- Tries one candidate of a sweep. -/
def trySweep (s : Service) (id : MessageId) (rest : List MessageId)
    (resent : Nat) (watching : Option NodeCursor) : Service × Routine :=
  match if s.shutDown then none else s.claim id .automatic true with
  | none => (s, .sweep rest resent watching)
  | some (r, claimed) =>
    (claimed, .save (.send r (.sweep rest (resent + 1) watching)))

def work (s : Service) (task : Nat) (saved : Bool) : Routine → Service × Routine
  | .answer resent => (s, .answer resent)
  | .stop => (s, .stop)
  | .save next => (s, .write s.ledger next)
  | .write copy next =>
    if saved then ({ s with kept := some copy, saves := s.saves + 1 }, next)
    else (s, next)
  | .send r next => ({ s with outbox := s.outbox ++ [⟨s.clock, r⟩] }, next)
  | .sweep [] resent watching => (s, .afterSweep resent watching)
  | .sweep (id :: rest) resent watching => s.trySweep id rest resent watching
  | .follow cursor =>
    match s.source.next cursor with
    | (.changed status, seen) => s.onStatus task seen status
    | (.unchanged, _) => (s, .follow cursor)
    | (.closed, _) =>
      if s.subscriptions.get? cursor.id = some task then
        ({ s with subscriptions := s.subscriptions.erase cursor.id }, .stop)
      else (s, .stop)
  | .listen position =>
    match s.source.hear position with
    | (.announced id, heard) => (s.attachTracked id, .listen heard)
    | (.missed _, heard) => (s.attachKnown, .listen heard)
    | (.silence, heard) => (s, .listen heard)
  | .observe cursor =>
    match s.nodes.poll cursor with
    | (some .running, seen) =>
      (s, .debounce seen
        (s.clock + sleepTime s.config.reconnectSweepDelay.toNat))
    | (_, seen) => (s, .observe seen)
  | .debounce cursor _ => (s, .sweep s.candidates 0 (some cursor))

/-- Lets a task do its next piece, if it has something to do. -/
def resume (s : Service) (task : Nat) (saved : Bool) : Service :=
  match s.tasks.get? task with
  | none => s
  | some routine =>
    if s.isReady routine then
      let (worked, left) := s.work task saved routine
      worked.setRoutine task left
    else s

/-! ## Runs -/

/-- What the service is after one thing has happened. -/
def step (s : Service) : Event → Service
  | .register r => s.register r
  | .resend id => s.resend id
  | .sweep => s.sweep
  | .start =>
    match s.start? with
    | .ok started => started
    | .error _ => s
  | .shutdown => s.shutdown
  | .report id status => { s with source := s.source.set id status }
  | .forget id => { s with source := s.source.remove id }
  | .setNode transport state => { s with nodes := s.nodes.set transport state }
  | .pass millis => { s with clock := s.clock + millis }
  | .setCalendar now => { s with calendar := now }
  | .wake generation => s.wake generation
  | .resume task saved => s.resume task saved

/-- What the service is after some things have happened, one after the other. -/
def run (s : Service) (events : List Event) : Service :=
  events.foldl step s

/-- Nothing is left to do before something happens from outside. -/
def atRest (s : Service) : Bool :=
  (s.scheduler.due s.clock).isEmpty && !s.tasks.values.any s.isReady

end Service

end Redelivery
