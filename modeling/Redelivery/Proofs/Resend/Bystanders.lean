import Redelivery.Proofs.Resend.Separation

/-!
# What an operation leaves alone

All messages share the tables of the service, but an operation on one message
changes nothing that belongs to another: not its record, its counter or its
timer, and not the task that follows it.
-/

namespace Redelivery

/-- An operation on one message. -/
inductive Operation where
  /-- A message that was sent is handed over, or one that is tracked with a new
  status. -/
  | register (record : Record)
  | resend (id : MessageId)
  | fire (id : MessageId)
  /-- The task that follows the message takes up what it sees: it applies a new
  status, or drops its subscription. -/
  | notice (id : MessageId)
  /-- The message is followed from now on, if it has a live record. -/
  | follow (id : MessageId)
deriving DecidableEq

def Operation.id : Operation → MessageId
  | register r => r.id
  | resend id | fire id | notice id | follow id => id

namespace Service

def undertake (s : Service) : Operation → Service
  | .register r => s.step (.register r)
  | .resend id => s.step (.resend id)
  | .fire id =>
    match s.scheduler.timers.get? id with
    | some timer => s.step (.wake timer.generation)
    | none => s
  | .notice id =>
    match s.subscriptions.get? id with
    | some task => s.step (.resume task true)
    | none => s
  | .follow id => s.attachTracked id

/-- Whether an operation may take place.  A task that follows a message takes up
what it sees only where it waits for that, and not while it saves. -/
def Offers (s : Service) : Operation → Prop
  | .notice id => ∃ task cursor, s.subscriptions.get? id = some task ∧
      s.tasks.get? task = some (.follow cursor)
  | _ => True

/-- All that belongs to a message is as it was: its record and its counter, its
timer and what waits for that, and the task that follows it. -/
structure Leaves (s t : Service) (id : MessageId) : Prop where
  record : t.ledger.get? id = s.ledger.get? id
  attempts : t.attempts? id = s.attempts? id
  timer : t.scheduler.timers.get? id = s.scheduler.timers.get? id
  sleeper : ∀ timer, s.scheduler.timers.get? id = some timer →
    t.scheduler.sleepers.get? timer.generation =
      s.scheduler.sleepers.get? timer.generation
  subscription : t.subscriptions.get? id = s.subscriptions.get? id
  cursor : ∀ task, s.subscriptions.get? id = some task →
    t.cursor? task = s.cursor? task
  waiting : ∀ task cursor, s.subscriptions.get? id = some task →
    s.tasks.get? task = some (.follow cursor) →
    t.tasks.get? task = some (.follow cursor)

variable {s t u : Service} {e : Event} {id id' : MessageId} {r : Record}
  {task : Nat}
  {routine : Routine}

theorem leaves_refl (s : Service) (id : MessageId) : s.Leaves s id :=
  ⟨rfl, rfl, rfl, fun _ _ => rfl, rfl, fun _ _ => rfl, fun _ _ _ htask => htask⟩

theorem Leaves.trans (hst : s.Leaves t id) (htu : t.Leaves u id) :
    s.Leaves u id where
  record := htu.record.trans hst.record
  attempts := htu.attempts.trans hst.attempts
  timer := htu.timer.trans hst.timer
  sleeper := by
    intro timer htimer
    rw [htu.sleeper timer (hst.timer.trans htimer), hst.sleeper timer htimer]
  subscription := htu.subscription.trans hst.subscription
  cursor := by
    intro task hfollower
    rw [htu.cursor task (hst.subscription.trans hfollower),
      hst.cursor task hfollower]
  waiting := fun task cursor hfollower htask =>
    htu.waiting task cursor (hst.subscription.trans hfollower)
      (hst.waiting task cursor hfollower htask)

/-- Where ledger, timers and subscriptions stay, the tasks that follow
decide. -/
theorem leaves_of_tasks (hledger : t.ledger = s.ledger)
    (hscheduler : t.scheduler = s.scheduler)
    (hsubscription : t.subscriptions.get? id = s.subscriptions.get? id)
    (htasks : ∀ task, s.subscriptions.get? id = some task →
      t.tasks.get? task = s.tasks.get? task) : s.Leaves t id where
  record := by rw [hledger]
  attempts := by rw [attempts?, attempts?, hledger]
  timer := by rw [hscheduler]
  sleeper := fun _ _ => by rw [hscheduler]
  subscription := hsubscription
  cursor := fun task hfollower => by
    rw [cursor?, cursor?, htasks task hfollower]
  waiting := fun task cursor hfollower htask => by
    rw [htasks task hfollower, htask]

/-! ## The changes one by one -/

theorem Separate.leaves_spawn (hs : s.Separate) (routine : Routine)
    (id : MessageId) :
    s.Leaves (s.spawn routine) id := by
  refine leaves_of_tasks rfl rfl rfl ?_
  intro task hfollower
  rw [tasks_spawn,
    if_neg (Nat.ne_of_lt (hs.numbered.followers id task hfollower))]

theorem leaves_setRoutine (hother : s.subscriptions.get? id ≠ some task)
    (routine : Routine) :
    s.Leaves (s.setRoutine task routine) id := by
  refine leaves_of_tasks (by simp) (by simp) (by simp) ?_
  intro task' hfollower
  have hne : task' ≠ task := by
    rintro rfl
    exact hother hfollower
  rw [tasks_setRoutine, if_neg hne]

/-- The follower of a message is not that of another. -/
theorem Separate.follower_ne (hs : s.Separate) (hother : id' ≠ id)
    (hfollower : s.subscriptions.get? id = some task) :
    s.subscriptions.get? id' ≠ some task :=
  fun hfollower' => hother (hs.single id id' task hfollower hfollower')

theorem Separate.sleepers_apply (hs : s.Separate)
    (hrunning : s.shutDown = false) (hother : r.id ≠ id) (origin : Option Nat)
    {timer : Timer} (htimer : s.scheduler.timers.get? id = some timer) :
    (s.apply r origin).scheduler.sleepers.get? timer.generation =
      s.scheduler.sleepers.get? timer.generation := by
  have hcancelled : (s.scheduler.cancel r.id).sleepers.get? timer.generation =
      s.scheduler.sleepers.get? timer.generation := by
    cases hown : s.scheduler.timers.get? r.id with
    | none => rw [Scheduler.cancel_of_get?_eq_none hown]
    | some own =>
      have hne :=
        hs.matched.generation_ne hown htimer fun same => hother same.symm
      rw [Scheduler.sleepers_cancel_of_get? hown, if_neg hne]
  obtain ⟨due, hdue⟩ := hs.matched.waiting id timer htimer
  have hold : timer.generation ≠ s.scheduler.nextGeneration := by
    intro same
    rw [hs.matched.unused timer.generation (Nat.le_of_eq same.symm)] at hdue
    cases hdue
  rw [scheduler_apply hrunning]
  split
  next => simp only [Scheduler.arm, Table.get?_insert, if_neg hold, hcancelled]
  next => exact hcancelled

theorem Separate.leaves_apply (hs : s.Separate) (hrunning : s.shutDown = false)
    (hother : r.id ≠ id) (origin : Option Nat) :
    s.Leaves (s.apply r origin) id := by
  have hother' : id ≠ r.id := fun same => hother same.symm
  have htasks : ∀ task, s.subscriptions.get? id = some task →
      (s.apply r origin).tasks.get? task = s.tasks.get? task := by
    intro task hfollower
    rw [tasks_apply, if_neg]
    exact fun happlied => hs.follower_ne hother hfollower happlied.2.1
  refine ⟨?_, ?_, timers_apply_of_ne hrunning hother origin, ?_, ?_, ?_, ?_⟩
  · rw [ledger_apply]
    split
    next => rw [Ledger.get?_remove, if_neg hother']
    next => rw [Ledger.get?_upsert, if_neg hother']
  · rw [attempts?, ledger_apply]
    split
    next => rw [Ledger.attempts?_remove, if_neg hother', attempts?]
    next => rfl
  · exact fun timer htimer => hs.sleepers_apply hrunning hother origin htimer
  · rw [subscriptions_apply]
    split
    next => rw [Table.get?_erase, if_neg hother']
    next => rfl
  · intro task hfollower
    rw [cursor?, cursor?, htasks task hfollower]
  · intro task cursor hfollower htask
    rw [htasks task hfollower, htask]

theorem Separate.leaves_attach (hs : s.Separate) (hother : id' ≠ id) :
    s.Leaves (s.attach id') id := by
  rcases attach_cases s id' with ⟨hsame, _⟩ | ⟨stream, _, _, _, hattach⟩
  · rw [hsame]
    exact leaves_refl s id
  · have hother' : id ≠ id' := fun same => hother same.symm
    rw [hattach]
    refine leaves_of_tasks rfl rfl (by simp [hother']) ?_
    intro task hfollower
    have hne : task ≠ s.nextTask :=
      Nat.ne_of_lt (hs.numbered.followers id task hfollower)
    simp only [tasks_spawn, if_neg hne]

theorem Separate.leaves_attachTracked (hs : s.Separate) (hother : id' ≠ id) :
    s.Leaves (s.attachTracked id') id :=
  attachTracked_elim (leaves_refl s id) fun _ => hs.leaves_attach hother

theorem leaves_claim {bound : ResendBound} {sweeping : Bool} (hother : id' ≠ id)
    (hclaim : s.claim id' bound sweeping = some (r, t)) : s.Leaves t id := by
  have hother' : id ≠ id' := fun same => hother same.symm
  obtain ⟨_, _, _, _, rfl⟩ := claim_eq_some_iff.1 hclaim
  refine ⟨rfl, ?_, rfl, fun _ _ => rfl, rfl, fun _ _ => rfl,
    fun _ _ _ htask => htask⟩
  simp only [attempts?, Ledger.attempts?_setAttempts, if_neg hother']

theorem Separate.leaves_woken (hs : s.Separate) (hother : id' ≠ id)
    {generation : Nat}
    (hcurrent : s.scheduler.isCurrent id' generation = true) :
    s.Leaves (s.woken generation id') id := by
  have hother' : id ≠ id' := fun same => hother same.symm
  refine ⟨rfl, rfl, ?_, ?_, rfl, fun _ _ => rfl, fun _ _ _ htask => htask⟩
  · simp only [Service.woken]
    rw [Scheduler.timers_complete_wake hcurrent, if_neg hother']
  · intro timer htimer
    obtain ⟨delay, hown⟩ := Scheduler.isCurrent_iff.1 hcurrent
    have hne := hs.matched.generation_ne hown htimer hother'
    simp only [Service.woken]
    rw [Scheduler.sleepers_complete_wake hcurrent, if_neg hne]

/-! ## The operations -/

theorem Separate.leaves_register (hs : s.Separate) (hother : r.id ≠ id)
    (htransition : Transition s (.register r) t) : s.Leaves t id := by
  have hspawned := hs.spawn (.save (.answer 0))
  have hleaves := hs.leaves_spawn (.save (.answer 0)) id
  cases htransition with
  | idle => exact leaves_refl s id
  | refuse => exact hs.leaves_spawn _ id
  | retire _ hrunning =>
    exact hleaves.trans (hspawned.leaves_apply hrunning hother none)
  | enroll _ hrunning =>
    have happlied := hspawned.apply hrunning r none
    exact (hleaves.trans (hspawned.leaves_apply hrunning hother none)).trans
      (happlied.leaves_attach hother)

theorem Separate.leaves_resend (hs : s.Separate) (hother : id' ≠ id)
    (htransition : Transition s (.resend id') t) : s.Leaves t id := by
  cases htransition with
  | idle => exact leaves_refl s id
  | refuse => exact hs.leaves_spawn _ id
  | resend _ r claimed _ hclaim =>
    exact (leaves_claim hother hclaim).trans
      ((hs.claim hclaim).leaves_spawn _ id)

theorem Separate.leaves_wake (hs : s.Separate) (hother : id' ≠ id)
    {timer : Timer} (htimer : s.scheduler.timers.get? id' = some timer)
    (htransition : Transition s (.wake timer.generation) t) :
    s.Leaves t id := by
  obtain ⟨due, hdue⟩ := hs.matched.waiting id' timer htimer
  cases htransition with
  | idle => exact leaves_refl s id
  | refuse => exact hs.leaves_spawn _ id
  | lapse _ sleeper hsleeper hstale =>
    obtain ⟨hrunning, hcurrent⟩ := hs.isCurrent hsleeper
    simp [hrunning, hcurrent] at hstale
  | exhaust _ sleeper hsleeper _ _ hcurrent =>
    cases hdue.symm.trans hsleeper
    exact hs.leaves_woken hother hcurrent
  | fire _ sleeper r claimed hsleeper _ _ hcurrent hclaim =>
    cases hdue.symm.trans hsleeper
    have hwoken := hs.woken hcurrent
    exact ((hs.leaves_woken hother hcurrent).trans
      (leaves_claim hother hclaim)).trans
      ((hwoken.claim hclaim).leaves_spawn _ id)

theorem Separate.leaves_notice (hs : s.Separate) (hkeyed : s.ledger.Keyed)
    (hother : id' ≠ id) {cursor : StatusCursor}
    (hfollower : s.subscriptions.get? id' = some task)
    (htask : s.tasks.get? task = some (.follow cursor)) {saved : Bool}
    (htransition : Transition s (.resume task saved) t) : s.Leaves t id := by
  have hid : cursor.id = id' :=
    hs.own id' task cursor hfollower (cursor?_of_get? htask)
  have hne : s.subscriptions.get? id ≠ some task :=
    hs.follower_ne (fun same => hother same.symm) hfollower
  cases htransition with
  | idle => exact leaves_refl s id
  | refuse => exact hs.leaves_spawn _ id
  | chore _ _ old left u hold _ hchore =>
    cases htask.symm.trans hold
    cases hchore
  | catchUp _ _ _ _ _ _ _ _ hold => cases htask.symm.trans hold
  | hear _ _ _ _ _ hold => cases htask.symm.trans hold
  | rescan _ _ _ _ _ hold => cases htask.symm.trans hold
  | leave => exact leaves_setRoutine hne .stop
  | restate _ _ cursor' seen status r hhears =>
    cases htask.symm.trans hhears.following
    have hrecord : (r.withStatus status).id ≠ id := by
      have hr : r.id = cursor.id := hhears.id_eq hkeyed
      change r.id ≠ id
      rwa [hr, hid]
    have hleaves := hs.leaves_apply hhears.running hrecord (some task)
    exact hleaves.trans (leaves_setRoutine (by rwa [hleaves.subscription]) _)
  | drop _ _ cursor' hold =>
    cases htask.symm.trans hold
    have hunfollowed : s.Leaves
        { s with subscriptions := s.subscriptions.erase cursor.id } id := by
      refine leaves_of_tasks rfl rfl ?_ fun _ _ => rfl
      rw [Table.get?_erase, hid, if_neg fun same => hother same.symm]
    exact hunfollowed.trans
      (leaves_setRoutine (by rwa [hunfollowed.subscription]) .stop)

/-- The first piece of an operation on a message leaves all others alone. -/
theorem Separate.leaves_undertake (hs : s.Separate) (hkeyed : s.ledger.Keyed)
    {p : Operation} (hoffers : s.Offers p) (hother : p.id ≠ id) :
    s.Leaves (s.undertake p) id := by
  cases p with
  | register r => exact hs.leaves_register hother (transition_step s _)
  | resend id' => exact hs.leaves_resend hother (transition_step s _)
  | fire id' =>
    simp only [undertake]
    split
    next timer htimer =>
      exact hs.leaves_wake hother htimer (transition_step s _)
    next => exact leaves_refl s id
  | notice id' =>
    obtain ⟨task, cursor, hfollower, htask⟩ := hoffers
    simp only [undertake, hfollower]
    exact hs.leaves_notice hkeyed hother hfollower htask (transition_step s _)
  | follow id' => exact hs.leaves_attachTracked hother

end Service

end Redelivery
