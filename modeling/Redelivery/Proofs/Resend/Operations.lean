import Redelivery.Proofs.Ledger.Lookup
import Redelivery.Resend.Event

/-!
# What the operations change

Each operation of the service changes a few parts of it and leaves the rest as
it is.  Tasks are seen through what they hold: the cursor by which they follow a
message, and the messages that they have claimed an attempt for.
-/

namespace Redelivery

namespace DeliveryStatus

theorem detach_classify (status : DeliveryStatus) (config : ResendConfig) :
    (status.classify config).detach = status.isReceived := by
  cases status <;> rfl

theorem ledger_classify (status : DeliveryStatus) (config : ResendConfig) :
    (status.classify config).ledger =
      if status.isReceived then .remove else .upsert := by
  cases status <;> rfl

theorem timer_classify_of_isReceived {status : DeliveryStatus}
    (config : ResendConfig) (hreceived : status.isReceived = true) :
    (status.classify config).timer = .cancel := by
  cases status <;> simp_all [isReceived, classify]

end DeliveryStatus

namespace Routine

/-- The cursor by which a task follows a message, also while it saves what it
has applied.  A task that has ended its own subscription follows nothing any
more. -/
@[simp]
def cursor? : Routine → Option StatusCursor
  | save next | write _ next | send _ next => next.cursor?
  | follow cursor => some cursor
  | _ => none

@[simp]
def position? : Routine → Option Nat
  | save next | write _ next | send _ next => next.position?
  | listen position => some position
  | _ => none

/-- The messages that a task has claimed an attempt for and has not sent yet. -/
@[simp]
def owed : Routine → List Record
  | save next | write _ next => next.owed
  | send r next => r :: next.owed
  | _ => []

@[simp]
theorem cursor?_afterSweep (resent : Nat) (watching : Option NodeCursor) :
    (afterSweep resent watching).cursor? = none := by
  cases watching <;> rfl

@[simp]
theorem position?_afterSweep (resent : Nat) (watching : Option NodeCursor) :
    (afterSweep resent watching).position? = none := by
  cases watching <;> rfl

/-- No task both follows a message and listens. -/
theorem position?_eq_none_of_cursor? {routine : Routine} {cursor : StatusCursor}
    (hcursor : routine.cursor? = some cursor) : routine.position? = none := by
  induction routine with
  | save next ih => exact ih hcursor
  | write copy next ih => exact ih hcursor
  | send r next ih => exact ih hcursor
  | listen position => cases hcursor
  | _ => rfl

@[simp]
theorem owed_afterSweep (resent : Nat) (watching : Option NodeCursor) :
    (afterSweep resent watching).owed = [] := by
  cases watching <;> rfl

end Routine

namespace Service

def cursor? (s : Service) (task : Nat) : Option StatusCursor :=
  (s.tasks.get? task).bind Routine.cursor?

def position? (s : Service) (task : Nat) : Option Nat :=
  (s.tasks.get? task).bind Routine.position?

/-- The messages that an attempt is claimed for and that are not sent yet. -/
def owed (s : Service) : List Record :=
  s.tasks.values.flatMap Routine.owed

variable {s : Service} {id : MessageId} {r : Record} {task : Nat}
  {routine : Routine}

theorem cursor?_eq_some {cursor : StatusCursor} :
    s.cursor? task = some cursor ↔
      ∃ routine, s.tasks.get? task = some routine ∧
        routine.cursor? = some cursor := by
  rw [cursor?, Option.bind_eq_some_iff]

theorem cursor?_of_get? (htask : s.tasks.get? task = some routine) :
    s.cursor? task = routine.cursor? := by
  simp [cursor?, htask]

theorem position?_of_get? (htask : s.tasks.get? task = some routine) :
    s.position? task = routine.position? := by
  simp [position?, htask]

/-! ## Tasks -/

@[simp]
theorem setRoutine_frame (s : Service) (task : Nat) (routine : Routine) :
    (s.setRoutine task routine).config = s.config ∧
      (s.setRoutine task routine).ledger = s.ledger ∧
      (s.setRoutine task routine).scheduler = s.scheduler ∧
      (s.setRoutine task routine).subscriptions = s.subscriptions ∧
      (s.setRoutine task routine).background = s.background ∧
      (s.setRoutine task routine).nextTask = s.nextTask ∧
      (s.setRoutine task routine).started = s.started ∧
      (s.setRoutine task routine).shutDown = s.shutDown ∧
      (s.setRoutine task routine).source = s.source ∧
      (s.setRoutine task routine).nodes = s.nodes ∧
      (s.setRoutine task routine).kept = s.kept ∧
      (s.setRoutine task routine).saves = s.saves ∧
      (s.setRoutine task routine).outbox = s.outbox ∧
      (s.setRoutine task routine).clock = s.clock ∧
      (s.setRoutine task routine).calendar = s.calendar := by
  unfold setRoutine
  split <;> simp

theorem tasks_setRoutine (s : Service) (task : Nat) (routine : Routine)
    (task' : Nat) :
    (s.setRoutine task routine).tasks.get? task' =
      if task' = task then (if routine = .stop then none else some routine)
      else s.tasks.get? task' := by
  unfold setRoutine
  by_cases hstop : routine = .stop <;> simp [hstop]

/-- What a task holds after it goes on, where a task that has ended holds
nothing. -/
theorem bind_tasks_setRoutine {α : Type} {view : Routine → Option α}
    (hstop : view .stop = none) (s : Service) (task : Nat) (routine : Routine)
    (task' : Nat) :
    ((s.setRoutine task routine).tasks.get? task').bind view =
      if task' = task then view routine
      else (s.tasks.get? task').bind view := by
  rw [tasks_setRoutine]
  by_cases hsame : task' = task
  · by_cases hended : routine = .stop <;> simp [hsame, hended, hstop]
  · simp [hsame]

@[simp]
theorem cursor?_setRoutine (s : Service) (task : Nat) (routine : Routine)
    (task' : Nat) :
    (s.setRoutine task routine).cursor? task' =
      if task' = task then routine.cursor? else s.cursor? task' :=
  bind_tasks_setRoutine rfl s task routine task'

theorem cursor?_of_setRoutine {worker : Nat} {left : Routine}
    {cursor : StatusCursor} (hnone : left.cursor? = none)
    (hcursor : (s.setRoutine worker left).cursor? task = some cursor) :
    s.cursor? task = some cursor := by
  rw [cursor?_setRoutine] at hcursor
  split at hcursor
  next =>
    rw [hnone] at hcursor
    cases hcursor
  next => exact hcursor

@[simp]
theorem position?_setRoutine (s : Service) (task : Nat) (routine : Routine)
    (task' : Nat) :
    (s.setRoutine task routine).position? task' =
      if task' = task then routine.position? else s.position? task' :=
  bind_tasks_setRoutine rfl s task routine task'

theorem bind_tasks_spawn {α : Type} (view : Routine → Option α) (s : Service)
    (routine : Routine) (task : Nat) :
    ((s.spawn routine).tasks.get? task).bind view =
      if task = s.nextTask then view routine
      else (s.tasks.get? task).bind view := by
  simp only [spawn, Table.get?_insert]
  split <;> rfl

@[simp]
theorem cursor?_spawn (s : Service) (routine : Routine) (task : Nat) :
    (s.spawn routine).cursor? task =
      if task = s.nextTask then routine.cursor? else s.cursor? task :=
  bind_tasks_spawn Routine.cursor? s routine task

theorem cursor?_of_spawn {cursor : StatusCursor}
    (hnone : routine.cursor? = none)
    (hcursor : (s.spawn routine).cursor? task = some cursor) :
    s.cursor? task = some cursor := by
  rw [cursor?_spawn] at hcursor
  split at hcursor
  next =>
    rw [hnone] at hcursor
    cases hcursor
  next => exact hcursor

@[simp]
theorem position?_spawn (s : Service) (routine : Routine) (task : Nat) :
    (s.spawn routine).position? task =
      if task = s.nextTask then routine.position? else s.position? task :=
  bind_tasks_spawn Routine.position? s routine task

theorem tasks_spawn (s : Service) (routine : Routine) (task : Nat) :
    (s.spawn routine).tasks.get? task =
      if task = s.nextTask then some routine else s.tasks.get? task := by
  simp [spawn]

@[simp]
theorem spawn_frame (s : Service) (routine : Routine) :
    (s.spawn routine).config = s.config ∧
      (s.spawn routine).ledger = s.ledger ∧
      (s.spawn routine).scheduler = s.scheduler ∧
      (s.spawn routine).subscriptions = s.subscriptions ∧
      (s.spawn routine).background = s.background ∧
      (s.spawn routine).nextTask = s.nextTask + 1 ∧
      (s.spawn routine).started = s.started ∧
      (s.spawn routine).shutDown = s.shutDown ∧
      (s.spawn routine).source = s.source ∧
      (s.spawn routine).nodes = s.nodes ∧
      (s.spawn routine).kept = s.kept ∧
      (s.spawn routine).saves = s.saves ∧
      (s.spawn routine).outbox = s.outbox ∧
      (s.spawn routine).clock = s.clock ∧
      (s.spawn routine).calendar = s.calendar := by
  simp [spawn]

/-! ## Applying a status -/

theorem apply_eq (s : Service) (r : Record) (origin : Option Nat) :
    s.apply r origin =
      if r.status.isReceived then
        ({ s with
          ledger := s.ledger.remove r.id,
          scheduler := s.scheduler.cancel r.id }).detach
          r.id origin
      else
        ({ s with ledger := s.ledger.upsert r }).setTimer r.id r.status
          (r.status.classify s.config).timer := by
  unfold apply
  simp only [DeliveryStatus.detach_classify, DeliveryStatus.ledger_classify]
  by_cases hreceived : r.status.isReceived = true
  · simp only [hreceived, if_true]
    rw [DeliveryStatus.timer_classify_of_isReceived _ hreceived]
    rfl
  · simp only [hreceived]
    rfl

theorem setTimer_eq (s : Service) (id : MessageId) (status : DeliveryStatus)
    (action : TimerAction) :
    s.setTimer id status action =
      { s with scheduler := (s.setTimer id status action).scheduler } := by
  cases action with
  | cancel => rfl
  | arm delay =>
    simp only [setTimer]
    split <;> rfl

theorem detach_eq (s : Service) (id : MessageId) (origin : Option Nat) :
    s.detach id origin =
      { s with
        subscriptions := s.subscriptions.erase id
        tasks := (s.detach id origin).tasks } := by
  unfold detach
  split
  next hnone => rw [Table.erase_of_get?_eq_none hnone]
  next => split <;> rfl

theorem tasks_detach (s : Service) (id : MessageId) (origin : Option Nat)
    (task : Nat) :
    (s.detach id origin).tasks.get? task =
      if s.subscriptions.get? id = some task ∧ origin ≠ some task then none
      else s.tasks.get? task := by
  unfold detach
  split
  next hnone => simp [hnone]
  next follower hfollower =>
    simp only [hfollower, Option.some.injEq]
    by_cases hown : origin = some follower
    · rw [if_pos hown, if_neg]
      rintro ⟨rfl, hother⟩
      exact hother hown
    · rw [if_neg hown]
      simp only [abort, Table.get?_erase]
      by_cases hsame : task = follower
      · subst hsame
        simp [hown]
      · have hsame' : follower ≠ task := fun e => hsame e.symm
        simp [hsame, hsame']

@[simp]
theorem apply_frame (s : Service) (r : Record) (origin : Option Nat) :
    (s.apply r origin).config = s.config ∧
      (s.apply r origin).background = s.background ∧
      (s.apply r origin).nextTask = s.nextTask ∧
      (s.apply r origin).started = s.started ∧
      (s.apply r origin).shutDown = s.shutDown ∧
      (s.apply r origin).source = s.source ∧
      (s.apply r origin).nodes = s.nodes ∧
      (s.apply r origin).kept = s.kept ∧
      (s.apply r origin).saves = s.saves ∧
      (s.apply r origin).outbox = s.outbox ∧
      (s.apply r origin).clock = s.clock ∧
      (s.apply r origin).calendar = s.calendar := by
  rw [apply_eq]
  split
  next => rw [detach_eq]; simp
  next => rw [setTimer_eq]; simp

theorem ledger_apply (s : Service) (r : Record) (origin : Option Nat) :
    (s.apply r origin).ledger =
      if r.status.isReceived then s.ledger.remove r.id
      else s.ledger.upsert r := by
  rw [apply_eq]
  split
  next => rw [detach_eq]
  next => rw [setTimer_eq]

/-- A status that asks for a timer arms one; every other status takes it
away. -/
theorem scheduler_apply (hopen : s.shutDown = false) (r : Record)
    (origin : Option Nat) :
    (s.apply r origin).scheduler =
      match (r.status.classify s.config).timer with
      | .arm delay => s.scheduler.arm s.clock r.id delay
      | .cancel => s.scheduler.cancel r.id := by
  rw [apply_eq]
  by_cases hreceived : r.status.isReceived = true
  · rw [if_pos hreceived, detach_eq,
      DeliveryStatus.timer_classify_of_isReceived _ hreceived]
  · rw [if_neg hreceived]
    cases htimer : (r.status.classify s.config).timer with
    | cancel => rfl
    | arm delay =>
      have hrearm := DeliveryStatus.rearmAllowed_of_arm htimer
      simp [setTimer, hopen, hrearm]

theorem subscriptions_apply (s : Service) (r : Record) (origin : Option Nat) :
    (s.apply r origin).subscriptions =
      if r.status.isReceived then s.subscriptions.erase r.id
      else s.subscriptions := by
  rw [apply_eq]
  split
  next => rw [detach_eq]
  next => rw [setTimer_eq]

theorem tasks_apply (s : Service) (r : Record) (origin : Option Nat)
    (task : Nat) :
    (s.apply r origin).tasks.get? task =
      if r.status.isReceived = true ∧ s.subscriptions.get? r.id = some task ∧
        origin ≠ some task then none
      else s.tasks.get? task := by
  rw [apply_eq]
  by_cases hreceived : r.status.isReceived = true
  · rw [if_pos hreceived, tasks_detach]
    simp [hreceived]
  · rw [if_neg hreceived, setTimer_eq]
    simp [hreceived]

theorem cursor?_apply (s : Service) (r : Record) (origin : Option Nat)
    (task : Nat) :
    (s.apply r origin).cursor? task =
      if r.status.isReceived = true ∧ s.subscriptions.get? r.id = some task ∧
        origin ≠ some task then none
      else s.cursor? task := by
  rw [cursor?, tasks_apply]
  split <;> rfl

theorem cursor?_of_apply {origin : Option Nat} {cursor : StatusCursor}
    (hcursor : (s.apply r origin).cursor? task = some cursor) :
    s.cursor? task = some cursor := by
  rw [cursor?_apply] at hcursor
  split at hcursor
  next => cases hcursor
  next => exact hcursor

/-! ## Following a message -/

/-- The cursor with which a task begins to follow a message: a status that the
live record has already counts as seen. -/
def firstCursor (s : Service) (id : MessageId) (stream : StatusStream) :
    StatusCursor where
  id := id
  stream := stream.number
  seen := if (s.record? id).any fun r => r.status = stream.status then
    some stream.version
    else none

@[simp]
theorem firstCursor_id (s : Service) (id : MessageId) (stream : StatusStream) :
    (s.firstCursor id stream).id = id := rfl

theorem attach_of_current {stream : StatusStream} (hopen : s.shutDown = false)
    (hfree : s.subscriptions.get? id = none)
    (hcurrent : s.source.current.get? id = some stream) :
    s.attach id =
      { s.spawn (.follow (s.firstCursor id stream)) with
        subscriptions := s.subscriptions.insert id s.nextTask } := by
  have hsub : s.source.subscribe id = some ⟨id, stream.number, none⟩ := by
    simp [StatusSource.subscribe, hcurrent]
  have hstatus : s.source.status? id = some stream.status := by
    simp [StatusSource.status?, hcurrent]
  have hunseen : s.source.unseen? ⟨id, stream.number, none⟩ = some stream := by
    simp [StatusSource.unseen?, StatusSource.open?, hcurrent, Option.filter]
  have hfree' : s.isSubscribed id = false := by
    simp [isSubscribed, Table.contains_eq, hfree]
  simp only [attach, hopen, hfree', hsub, hstatus,
    StatusSource.markSeen, hunseen]
  by_cases hknown : (s.record? id).any fun r => r.status = stream.status
  · simp [firstCursor, hknown]
  · simp [firstCursor, hknown]

theorem attach_of_refused
    (hrefused : s.shutDown = true ∨ (s.subscriptions.get? id).isSome = true ∨
      s.source.current.get? id = none) : s.attach id = s := by
  unfold attach
  split
  next => rfl
  next hcan =>
    have hsource : s.source.current.get? id = none := by
      rcases hrefused with hshut | hfollowed | hsource
      · simp [hshut] at hcan
      · simp [isSubscribed, Table.contains_eq, hfollowed] at hcan
      · exact hsource
    simp [StatusSource.subscribe, hsource]

/-- Either nothing happens, or a task begins to follow the current stream of the
message. -/
theorem attach_cases (s : Service) (id : MessageId) :
    (s.attach id = s ∧
      (s.shutDown = true ∨ (s.subscriptions.get? id).isSome = true ∨
        s.source.current.get? id = none)) ∨
    ∃ stream, s.shutDown = false ∧ s.subscriptions.get? id = none ∧
      s.source.current.get? id = some stream ∧
      s.attach id =
        { s.spawn (.follow (s.firstCursor id stream)) with
          subscriptions := s.subscriptions.insert id s.nextTask } := by
  cases hshut : s.shutDown with
  | true => exact .inl ⟨attach_of_refused (.inl hshut), .inl rfl⟩
  | false =>
    cases hfollowed : s.subscriptions.get? id with
    | some follower =>
      have hsome : (s.subscriptions.get? id).isSome = true := by
        simp [hfollowed]
      exact .inl ⟨attach_of_refused (.inr (.inl hsome)), .inr (.inl rfl)⟩
    | none =>
      cases hcurrent : s.source.current.get? id with
      | none =>
        exact .inl ⟨attach_of_refused (.inr (.inr hcurrent)), .inr (.inr rfl)⟩
      | some stream =>
        exact .inr ⟨stream, rfl, rfl, rfl,
          attach_of_current hshut hfollowed hcurrent⟩

@[simp]
theorem attach_frame (s : Service) (id : MessageId) :
    (s.attach id).config = s.config ∧
      (s.attach id).ledger = s.ledger ∧
      (s.attach id).scheduler = s.scheduler ∧
      (s.attach id).background = s.background ∧
      (s.attach id).started = s.started ∧
      (s.attach id).shutDown = s.shutDown ∧
      (s.attach id).source = s.source ∧
      (s.attach id).nodes = s.nodes ∧
      (s.attach id).kept = s.kept ∧
      (s.attach id).saves = s.saves ∧
      (s.attach id).outbox = s.outbox ∧
      (s.attach id).clock = s.clock ∧
      (s.attach id).calendar = s.calendar := by
  rcases attach_cases s id with ⟨hsame, _⟩ | ⟨stream, _, _, _, hattach⟩
  · simp [hsame]
  · simp [hattach]

/-- What holds before and is kept when a message with a live record is attached
holds after the message was looked at. -/
@[elab_as_elim]
theorem attachTracked_elim {P : Service → Prop} (hbefore : P s)
    (hkept : (s.record? id).isSome = true → P (s.attach id)) :
    P (s.attachTracked id) := by
  rw [attachTracked]
  split
  next hlive => exact hkept hlive
  next => exact hbefore

@[simp]
theorem attachTracked_frame (s : Service) (id : MessageId) :
    (s.attachTracked id).config = s.config ∧
      (s.attachTracked id).ledger = s.ledger ∧
      (s.attachTracked id).scheduler = s.scheduler ∧
      (s.attachTracked id).background = s.background ∧
      (s.attachTracked id).started = s.started ∧
      (s.attachTracked id).shutDown = s.shutDown ∧
      (s.attachTracked id).source = s.source ∧
      (s.attachTracked id).nodes = s.nodes ∧
      (s.attachTracked id).kept = s.kept ∧
      (s.attachTracked id).saves = s.saves ∧
      (s.attachTracked id).outbox = s.outbox ∧
      (s.attachTracked id).clock = s.clock ∧
      (s.attachTracked id).calendar = s.calendar := by
  unfold attachTracked
  split <;> simp

/-- What holds before and is kept by each message in turn holds after all of
them. -/
@[elab_as_elim]
theorem attachKnown_induction {P : Service → Prop} (hbefore : P s)
    (hkept : ∀ t id, P t → P (t.attachTracked id)) : P s.attachKnown :=
  List.foldlRecOn s.source.ids attachTracked hbefore fun t ht id _ =>
    hkept t id ht

@[simp]
theorem attachKnown_frame (s : Service) :
    s.attachKnown.config = s.config ∧
      s.attachKnown.ledger = s.ledger ∧
      s.attachKnown.scheduler = s.scheduler ∧
      s.attachKnown.background = s.background ∧
      s.attachKnown.started = s.started ∧
      s.attachKnown.shutDown = s.shutDown ∧
      s.attachKnown.source = s.source ∧
      s.attachKnown.nodes = s.nodes ∧
      s.attachKnown.kept = s.kept ∧
      s.attachKnown.saves = s.saves ∧
      s.attachKnown.outbox = s.outbox ∧
      s.attachKnown.clock = s.clock ∧
      s.attachKnown.calendar = s.calendar := by
  refine attachKnown_induction (s := s) ?_ ?_
  · simp
  · intro t id ht
    simpa using ht

/-! ## Claiming an attempt -/

/-- An attempt is claimed just where there is a live record, nothing forbids it,
and the counter is within the bound; then the counter grows and nothing else
changes. -/
theorem claim_eq_some_iff {bound : ResendBound} {sweeping : Bool}
    {t : Service} :
    s.claim id bound sweeping = some (r, t) ↔
      s.record? id = some r ∧
        (sweeping = true →
          r.status.needsSweep (s.scheduler.isArmed id) = true) ∧
        (bound = .automatic → r.status.rearmAllowed = true) ∧
        attemptsMade (s.attempts? id) ≤ bound.limit s.config ∧
        t = { s with
          ledger := s.ledger.setAttempts id
            (nextCount (attemptsMade (s.attempts? id))) } := by
  unfold claim
  cases hrecord : s.record? id with
  | none => simp
  | some r' =>
    simp only [Option.bind_eq_bind, Option.bind_some, Option.some.injEq]
    constructor
    · intro hclaim
      split at hclaim
      next => cases hclaim
      next hsweep =>
        split at hclaim
        next => cases hclaim
        next hbound =>
          simp only [Admission.of] at hclaim
          split at hclaim
          next attempts hadmitted =>
            split at hadmitted
            next => cases hadmitted
            next hwithin =>
              cases hadmitted
              cases hclaim
              refine ⟨rfl, ?_, ?_, by simpa using hwithin, rfl⟩
              · intro hsweeping
                simpa [hsweeping] using hsweep
              · intro hautomatic
                simpa [hautomatic] using hbound
          next => cases hclaim
    · rintro ⟨rfl, hsweep, hbound, hwithin, rfl⟩
      rw [if_neg, if_neg]
      · have hnot : ¬ bound.limit s.config < attemptsMade (s.attempts? id) := by
          simpa using hwithin
        simp [Admission.of, hnot]
      · rintro hforbidden
        simp only [Bool.and_eq_true, decide_eq_true_eq, Bool.not_eq_true']
          at hforbidden
        rw [hbound hforbidden.1] at hforbidden
        cases hforbidden.2
      · rintro hforbidden
        simp only [Bool.and_eq_true, Bool.not_eq_true'] at hforbidden
        rw [hsweep hforbidden.1] at hforbidden
        cases hforbidden.2

theorem claim_eq_none_of_record? {bound : ResendBound} {sweeping : Bool}
    (hnone : s.record? id = none) : s.claim id bound sweeping = none := by
  simp [claim, hnone]

end Service

end Redelivery
