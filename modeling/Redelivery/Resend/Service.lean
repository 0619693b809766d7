import Redelivery.Resend.Attempts
import Redelivery.Resend.Policy
import Redelivery.Resend.Routine
import Redelivery.Resend.Scheduler

/-!
# The resend service

The state of the service and of all that it deals with, and the changes that
take place without anything in between: a status is applied to ledger, timer and
subscription together; an attempt is claimed against its bound.
-/

namespace Redelivery

/-- A message that was handed to the gateway. -/
structure Dispatch where
  time : Nat
  record : Record
deriving DecidableEq, Inhabited

/-- The service, and around it the status source, the nodes, the store, the
gateway and the two clocks. -/
structure Service where
  config : ResendConfig
  ledger : Ledger
  scheduler : Scheduler
  /-- The task that follows the status of a message. -/
  subscriptions : Table MessageId Nat
  /-- The tasks that listen for ids and watch the nodes. -/
  background : List Nat
  tasks : Table Nat Routine
  nextTask : Nat
  started : Bool
  shutDown : Bool
  source : StatusSource
  nodes : NodeStates
  kept : Option Ledger
  saves : Nat
  /-- What was sent, the latest last. -/
  outbox : List Dispatch
  /-- The time that timers go by, in milliseconds. -/
  clock : Nat
  /-- The time that records expire by, in milliseconds. -/
  calendar : UInt64
deriving Inhabited

namespace Service

def new (config : ResendConfig) (ledger : Ledger) (nodes : NodeStates)
    (calendar : UInt64) :
    Service where
  config := config
  ledger := ledger
  scheduler := .empty
  subscriptions := .empty
  background := []
  tasks := .empty
  nextTask := 0
  started := false
  shutDown := false
  source := .empty
  nodes := nodes
  kept := none
  saves := 0
  outbox := []
  clock := 0
  calendar := calendar

/-- A service over what the store holds, in the place of one that is gone. -/
def reload (s : Service) : Service :=
  { s with
    ledger := .restored s.kept s.calendar
    scheduler := .empty
    subscriptions := .empty
    background := []
    tasks := .empty
    nextTask := 0
    started := false
    shutDown := false }

/-! ## Questions -/

/-- The record of a message whose life is not over. -/
def record? (s : Service) (id : MessageId) : Option Record :=
  s.ledger.find? s.calendar id

def attempts? (s : Service) (id : MessageId) : Option UInt32 :=
  s.ledger.attempts? id

def canManuallyResend (s : Service) (id : MessageId) : Bool :=
  (s.record? id).isSome &&
    manualResendAvailable (s.attempts? id) s.config.maxManualResends

/-- The live records whose delivery is pending, by id. -/
def pendingRecords (s : Service) : List Record :=
  s.ledger.listing.filter fun r => r.status.isPending && !r.isExpired s.calendar

/-- Whether the status of a message is followed. -/
def isSubscribed (s : Service) (id : MessageId) : Bool :=
  s.subscriptions.contains id

def text (s : Service) : String :=
  "ResendService \x7b config: " ++ s.config.text ++ ", records: " ++
    toString s.ledger.size ++
    ", timers: " ++ toString s.scheduler.timers.size ++ ", subscriptions: " ++
    toString s.subscriptions.size ++ ", shutdown: " ++ toString s.shutDown ++
      ", .. \x7d"

/-! ## Tasks -/

/-- Gives a task something else to do; one with nothing left to do is gone. -/
def setRoutine (s : Service) (task : Nat) (routine : Routine) : Service :=
  if routine = .stop then { s with tasks := s.tasks.erase task }
  else { s with tasks := s.tasks.insert task routine }

def spawn (s : Service) (routine : Routine) : Service :=
  { s with
    tasks := s.tasks.insert s.nextTask routine, nextTask := s.nextTask + 1 }

/-- Ends a task wherever it is, and so the turn to write that it may have.  What
it has asked of the store is not taken back: an operation on a file goes on
without the task. -/
def abort (s : Service) (task : Nat) : Service :=
  { s with tasks := s.tasks.erase task }

/-! ## One status, one attempt -/

/-- Stops following a message.  A task that ends its own subscription goes on,
so that it can save what led to it. -/
def detach (s : Service) (id : MessageId) (origin : Option Nat) : Service :=
  match s.subscriptions.get? id with
  | none => s
  | some task =>
    let dropped := { s with subscriptions := s.subscriptions.erase id }
    if origin = some task then dropped else dropped.abort task

def setTimer (s : Service) (id : MessageId) (status : DeliveryStatus) :
    TimerAction → Service
  | .cancel => { s with scheduler := s.scheduler.cancel id }
  | .arm delay =>
    if s.shutDown || !status.rearmAllowed then
      { s with scheduler := s.scheduler.cancel id }
    else { s with scheduler := s.scheduler.arm s.clock id delay }

def setRecord (s : Service) (r : Record) : LedgerAction → Service
  | .upsert => { s with ledger := s.ledger.upsert r }
  | .remove => { s with ledger := s.ledger.remove r.id }

/-- Applies a record as its status asks: ledger, timer and subscription
together.  `origin` is the task that follows the message, if the status comes
from there. -/
def apply (s : Service) (r : Record) (origin : Option Nat) : Service :=
  let decision := r.status.classify s.config
  let applied :=
    (s.setRecord r decision.ledger).setTimer r.id r.status decision.timer
  if decision.detach then applied.detach r.id origin else applied

/-- Begins to follow a message that the source knows of.  A status that the
record already has counts as seen. -/
def attach (s : Service) (id : MessageId) : Service :=
  if s.shutDown || s.isSubscribed id then s
  else
    match s.source.subscribe id, s.source.status? id with
    | some cursor, some current =>
      let known := (s.record? id).any fun r => r.status = current
      let cursor := if known then s.source.markSeen cursor else cursor
      { s.spawn (.follow cursor) with
        subscriptions := s.subscriptions.insert id s.nextTask }
    | _, _ => s

/-- Begins to follow a message if it has a live record. -/
def attachTracked (s : Service) (id : MessageId) : Service :=
  if (s.record? id).isSome then s.attach id else s

def attachKnown (s : Service) : Service :=
  s.source.ids.foldl attachTracked s

/-- Applies a status that a following task has seen, and says what the task does
next.  It ends if it no longer is the one that follows the message, or if there
is no live record. -/
def onStatus (s : Service) (task : Nat) (cursor : StatusCursor)
    (status : DeliveryStatus) :
    Service × Routine :=
  if s.shutDown || s.subscriptions.get? cursor.id ≠ some task then (s, .stop)
  else
    match s.record? cursor.id with
    | none =>
      ({ s with subscriptions := s.subscriptions.erase cursor.id }, .stop)
    | some r =>
      let next :=
        if (status.classify s.config).detach then .stop else .follow cursor
      (s.apply (r.withStatus status) (some task), .save next)

/-- Takes one attempt for a message, if it has a live record and its bound
allows it.  Attempts that the user did not ask for are refused where none is
owed. -/
def claim (s : Service) (id : MessageId) (bound : ResendBound)
    (sweeping : Bool) :
    Option (Record × Service) := do
  let r ← s.record? id
  if sweeping && !r.status.needsSweep (s.scheduler.isArmed id) then none
  else if bound = .automatic && !r.status.rearmAllowed then none
  else
    match Admission.of (s.attempts? id) (bound.limit s.config) with
    | .allowed attempts =>
      some (r, { s with ledger := s.ledger.setAttempts id attempts })
    | .refused _ => none

/-- The messages that a sweep tries, by id. -/
def candidates (s : Service) : List MessageId :=
  if s.shutDown then []
  else
    (s.ledger.listing.filter fun r =>
      !r.isExpired s.calendar &&
        r.status.needsSweep (s.scheduler.isArmed r.id)).map Record.id

end Service

end Redelivery
