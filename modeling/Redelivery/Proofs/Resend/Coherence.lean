import Redelivery.Proofs.Resend.Timers
import Redelivery.Proofs.Resend.Transition

/-!
# The parts of the service agree

Records, counters, timers and subscriptions are kept apart and have to stay in
step.  `Coherent` says what that means: a timer, a counter or a subscription
belongs to a record, the timer is the one that the record's status asks for, and
a subscription names the one task that follows its message.  Every change keeps
it, so it holds in every run.
-/

namespace Redelivery

/-! ## The invariant -/

/-- What the service relies on in its ledger: every record stands under its own
id, and only messages with a record are counted. -/
structure Ledger.Sound (l : Ledger) : Prop where
  keyed : l.Keyed
  counted : ∀ id n, l.attempts? id = some n → l.contains id = true

/-- No record is of a message that is known to be delivered. -/
def Ledger.Undelivered (l : Ledger) : Prop :=
  ∀ id r, l.get? id = some r → r.status.isReceived = false

/-- Every armed timer is the one that the status of its record asks for. -/
def Scheduler.Serves (scheduler : Scheduler) (config : ResendConfig)
    (l : Ledger) : Prop :=
  ∀ id timer, scheduler.timers.get? id = some timer →
    ∃ r, l.get? id = some r ∧ r.status.rearmAllowed = true ∧
      (r.status.classify config).timer = .arm timer.delay

namespace Service

/-- The parts of a service are in step. -/
structure Coherent (s : Service) : Prop where
  ledger : s.ledger.Sound
  timers : s.scheduler.Serves s.config s.ledger
  matched : s.scheduler.Matched
  tracked : ∀ id task, s.subscriptions.get? id = some task →
    s.ledger.contains id = true
  /-- The task that a subscription names follows the message, and no other task
  does. -/
  followed : ∀ id task, s.subscriptions.get? id = some task ↔
    ∃ cursor, s.cursor? task = some cursor ∧ cursor.id = id
  numbered : ∀ task, s.nextTask ≤ task → s.tasks.get? task = none
  ended : s.shutDown = true → ∀ id,
    s.scheduler.timers.get? id = none ∧ s.subscriptions.get? id = none

end Service

namespace Ledger

variable {l : Ledger} {id : MessageId} {r : Record}

theorem Sound.upsert (hsound : l.Sound) (r : Record) : (l.upsert r).Sound where
  keyed := hsound.keyed.upsert r
  counted := Counted.upsert hsound.counted r

theorem Sound.remove (hsound : l.Sound) (id : MessageId) :
    (l.remove id).Sound where
  keyed := hsound.keyed.remove id
  counted := Counted.remove hsound.counted id

theorem Sound.setAttempts (hsound : l.Sound) (hcontains : l.contains id = true)
    (n : UInt32) :
    (l.setAttempts id n).Sound where
  keyed := hsound.keyed.setAttempts id n
  counted := Counted.setAttempts hsound.counted hcontains n

theorem undelivered_empty : Ledger.empty.Undelivered := by
  intro id r hr
  simp at hr

theorem Undelivered.restored {kept : Option Ledger}
    (hkept : ∀ l ∈ kept, l.Undelivered) (now : UInt64) :
    (Ledger.restored kept now).Undelivered := by
  cases kept with
  | none => exact undelivered_empty
  | some l =>
    intro id r hr
    change (l.prune now).get? id = some r at hr
    rw [get?_prune, find?_eq_some_iff] at hr
    exact hkept l rfl id r hr.1

theorem Undelivered.upsert (hl : l.Undelivered)
    (howed : r.status.isReceived = false) :
    (l.upsert r).Undelivered := by
  intro id r' hr'
  rw [get?_upsert] at hr'
  split at hr'
  next => cases hr'; exact howed
  next => exact hl id r' hr'

theorem Undelivered.remove (hl : l.Undelivered) (id : MessageId) :
    (l.remove id).Undelivered := by
  intro id' r hr
  rw [get?_remove] at hr
  split at hr
  next => cases hr
  next => exact hl id' r hr

end Ledger

namespace Service

variable {s t : Service} {id : MessageId} {r : Record} {task : Nat}
  {routine : Routine}

/-! ## Tasks -/

theorem Coherent.lt_nextTask (hs : s.Coherent)
    (htask : s.tasks.get? task = some routine) :
    task < s.nextTask := by
  apply Nat.lt_of_not_le
  intro hlarge
  rw [hs.numbered task hlarge] at htask
  cases htask

theorem Coherent.follows (hs : s.Coherent) {cursor : StatusCursor}
    (hcursor : s.cursor? task = some cursor) :
    s.subscriptions.get? cursor.id = some task :=
  (hs.followed cursor.id task).2 ⟨cursor, hcursor, rfl⟩

theorem Coherent.id_of_follower (hs : s.Coherent) {id : MessageId}
    {cursor : StatusCursor} (hfollower : s.subscriptions.get? id = some task)
    (hcursor : s.cursor? task = some cursor) : cursor.id = id := by
  obtain ⟨cursor', hcursor', hid⟩ := (hs.followed id task).1 hfollower
  rw [hcursor] at hcursor'
  cases hcursor'
  exact hid

/-- What stands around the service, and where the clocks stand, does not
matter. -/
theorem Coherent.congr (hs : s.Coherent) (hconfig : t.config = s.config)
    (hledger : t.ledger = s.ledger) (hscheduler : t.scheduler = s.scheduler)
    (hsubscriptions : t.subscriptions = s.subscriptions)
    (htasks : t.tasks = s.tasks) (hnext : t.nextTask = s.nextTask)
    (hshut : t.shutDown = s.shutDown) : t.Coherent where
  ledger := hledger ▸ hs.ledger
  timers := by
    rw [hscheduler, hconfig, hledger]
    exact hs.timers
  matched := hscheduler ▸ hs.matched
  tracked := by
    rw [hsubscriptions, hledger]
    exact hs.tracked
  followed := by
    simp only [cursor?, hsubscriptions, htasks]
    exact hs.followed
  numbered := by
    rw [hnext, htasks]
    exact hs.numbered
  ended := by
    rw [hshut, hscheduler, hsubscriptions]
    exact hs.ended

theorem Coherent.spawn (hs : s.Coherent) (hcursor : routine.cursor? = none) :
    (s.spawn routine).Coherent where
  ledger := hs.ledger
  timers := hs.timers
  matched := hs.matched
  tracked := hs.tracked
  followed := by
    intro id task
    rw [cursor?_spawn]
    split
    next hnew =>
      have hunused : s.cursor? task = none := by
        simp [cursor?, hs.numbered task (by omega)]
      have hbefore := hs.followed id task
      rw [hunused] at hbefore
      rw [hcursor]
      exact hbefore
    next => exact hs.followed id task
  numbered := by
    intro task hlarge
    have hlarge : s.nextTask + 1 ≤ task := hlarge
    rw [tasks_spawn, if_neg (by omega)]
    exact hs.numbered task (by omega)
  ended := hs.ended

/-- A task goes on with another routine that follows the same message, or none
as before. -/
theorem Coherent.setRoutine (hs : s.Coherent) {old : Routine}
    (htask : s.tasks.get? task = some old)
    (hsame : routine.cursor?.map StatusCursor.id =
      old.cursor?.map StatusCursor.id) :
    (s.setRoutine task routine).Coherent where
  ledger := by simpa using hs.ledger
  timers := by simpa using hs.timers
  matched := by simpa using hs.matched
  tracked := by simpa using hs.tracked
  followed := by
    intro id task'
    simp only [cursor?_setRoutine, setRoutine_frame]
    split
    next same =>
      subst same
      have hbefore := hs.followed id task'
      simp only [cursor?_of_get? htask, ← Option.map_eq_some_iff] at hbefore ⊢
      rw [hsame]
      exact hbefore
    next => exact hs.followed id task'
  numbered := by
    intro task' hlarge
    simp only [setRoutine_frame] at hlarge
    have hlt := hs.lt_nextTask htask
    rw [tasks_setRoutine, if_neg (by omega)]
    exact hs.numbered task' hlarge
  ended := by simpa using hs.ended

/-- A message is no longer followed, and the task that followed it follows
nothing. -/
theorem Coherent.unfollow (hs : s.Coherent) (id : MessageId)
    (hledger : t.ledger.Sound) (htimers : t.scheduler.Serves t.config t.ledger)
    (hmatched : t.scheduler.Matched)
    (hcontains : ∀ id', id' ≠ id → s.ledger.contains id' = true →
      t.ledger.contains id' = true)
    (hsubscriptions : t.subscriptions = s.subscriptions.erase id)
    (hcursor : ∀ task, t.cursor? task =
      if s.subscriptions.get? id = some task then none else s.cursor? task)
    (hnumbered : ∀ task, t.nextTask ≤ task → t.tasks.get? task = none)
    (hended : t.shutDown = true → ∀ id',
      t.scheduler.timers.get? id' = none ∧ s.subscriptions.get? id' = none) :
    t.Coherent where
  ledger := hledger
  timers := htimers
  matched := hmatched
  tracked := by
    intro id' task' hfollower
    rw [hsubscriptions, Table.get?_erase] at hfollower
    split at hfollower
    next => cases hfollower
    next hother => exact hcontains id' hother (hs.tracked id' task' hfollower)
  followed := by
    intro id' task'
    rw [hsubscriptions, Table.get?_erase, hcursor]
    have hbefore := hs.followed id' task'
    by_cases hown : s.subscriptions.get? id = some task'
    · obtain ⟨cursor, hfollows, hid⟩ := (hs.followed id task').1 hown
      rw [if_pos hown]
      by_cases hsame : id' = id
      · simp [hsame]
      · rw [if_neg hsame, hbefore]
        simp only [reduceCtorEq, false_and, exists_false, iff_false,
          not_exists, not_and]
        intro cursor' hfollows'
        rw [hfollows] at hfollows'
        cases hfollows'
        rw [hid]
        exact fun e => hsame e.symm
    · rw [if_neg hown]
      by_cases hsame : id' = id
      · subst hsame
        rw [if_pos rfl]
        rw [← hbefore]
        simp [hown]
      · rw [if_neg hsame]
        exact hbefore
  numbered := hnumbered
  ended := by
    intro hshut id'
    refine ⟨(hended hshut id').1, ?_⟩
    rw [hsubscriptions, Table.get?_erase]
    split
    next => rfl
    next => exact (hended hshut id').2

/-! ## Applying a status -/

theorem Coherent.apply_of_owed (hs : s.Coherent) (hrunning : s.shutDown = false)
    (howed : r.status.isReceived = false) (origin : Option Nat) :
    (s.apply r origin).Coherent where
  ledger := by
    rw [ledger_apply, howed]
    exact hs.ledger.upsert r
  timers := by
    intro id timer htimer
    have hledger : (s.apply r origin).ledger = s.ledger.upsert r := by
      rw [ledger_apply, howed]
      rfl
    rw [hledger, Ledger.get?_upsert, (apply_frame s r origin).1]
    rw [scheduler_apply hrunning] at htimer
    by_cases hsame : id = r.id
    · rw [if_pos hsame]
      cases hdecision : (r.status.classify s.config).timer with
      | arm delay =>
        simp only [hdecision, Scheduler.timers_arm, if_pos hsame] at htimer
        cases htimer
        exact ⟨r, rfl, DeliveryStatus.rearmAllowed_of_arm hdecision, hdecision⟩
      | cancel => simp [hdecision, hsame] at htimer
    · rw [if_neg hsame]
      apply hs.timers id timer
      cases hdecision : (r.status.classify s.config).timer <;>
        simpa [hdecision, hsame] using htimer
  matched := by
    rw [scheduler_apply hrunning]
    split
    next => exact hs.matched.arm _ _ _
    next => exact hs.matched.cancel _
  tracked := by
    intro id task hfollower
    rw [subscriptions_apply, howed] at hfollower
    have hbefore := hs.tracked id task hfollower
    rw [ledger_apply, howed]
    rw [Ledger.contains_eq] at hbefore ⊢
    simp only [Bool.false_eq_true, if_false, Ledger.get?_upsert]
    split
    next => rfl
    next => exact hbefore
  followed := by
    intro id task
    rw [subscriptions_apply, cursor?_apply, howed]
    simpa using hs.followed id task
  numbered := by
    intro task hlarge
    rw [(apply_frame s r origin).2.2.1] at hlarge
    rw [tasks_apply, howed]
    simpa using hs.numbered task hlarge
  ended := by
    intro hshut
    rw [(apply_frame s r origin).2.2.2.2.1, hrunning] at hshut
    cases hshut

/-- A timer that is left serves a record that is left. -/
theorem Coherent.serves_remove (hs : s.Coherent) (id : MessageId) :
    (s.scheduler.cancel id).Serves s.config (s.ledger.remove id) := by
  intro id' timer htimer
  rw [Scheduler.timers_cancel] at htimer
  split at htimer
  next => cases htimer
  next hother =>
    rw [Ledger.get?_remove, if_neg hother]
    exact hs.timers id' timer htimer

theorem Coherent.apply_of_isReceived (hs : s.Coherent)
    (hrunning : s.shutDown = false) (hreceived : r.status.isReceived = true) :
    (s.apply r none).Coherent := by
  have hledger : (s.apply r none).ledger = s.ledger.remove r.id := by
    rw [ledger_apply, if_pos hreceived]
  have hscheduler : (s.apply r none).scheduler = s.scheduler.cancel r.id := by
    rw [scheduler_apply hrunning,
      DeliveryStatus.timer_classify_of_isReceived _ hreceived]
  refine hs.unfollow r.id ?_ ?_ ?_ ?_ ?_ ?_ ?_ ?_
  · rw [hledger]
    exact hs.ledger.remove r.id
  · rw [hledger, hscheduler, (apply_frame s r none).1]
    exact hs.serves_remove r.id
  · rw [hscheduler]
    exact hs.matched.cancel r.id
  · intro id' hother hcontains
    rw [hledger]
    exact Ledger.contains_remove hother hcontains
  · rw [subscriptions_apply, if_pos hreceived]
  · intro task
    simp [cursor?_apply, hreceived]
  · intro task hlarge
    rw [(apply_frame s r none).2.2.1] at hlarge
    rw [tasks_apply, hs.numbered task hlarge]
    split <;> rfl
  · intro hshut
    rw [(apply_frame s r none).2.2.2.2.1, hrunning] at hshut
    cases hshut

/-- A task that has heard of a delivery saves once more and follows nothing
then. -/
theorem Coherent.deliver (hs : s.Coherent) {cursor : StatusCursor}
    (htask : s.tasks.get? task = some (.follow cursor))
    (hrunning : s.shutDown = false)
    (hcurrent : s.subscriptions.get? cursor.id = some task)
    (hid : r.id = cursor.id) (hreceived : r.status.isReceived = true) :
    ((s.apply r (some task)).setRoutine task (.save .stop)).Coherent := by
  have hledger : (s.apply r (some task)).ledger = s.ledger.remove r.id := by
    rw [ledger_apply, if_pos hreceived]
  have hscheduler :
      (s.apply r (some task)).scheduler = s.scheduler.cancel r.id := by
    rw [scheduler_apply hrunning,
      DeliveryStatus.timer_classify_of_isReceived _ hreceived]
  have hlt := hs.lt_nextTask htask
  refine hs.unfollow r.id ?_ ?_ ?_ ?_ ?_ ?_ ?_ ?_
  · simp only [setRoutine_frame, hledger]
    exact hs.ledger.remove r.id
  · simp only [setRoutine_frame, hledger, hscheduler, apply_frame]
    exact hs.serves_remove r.id
  · simp only [setRoutine_frame, hscheduler]
    exact hs.matched.cancel r.id
  · intro id' hother hcontains
    simp only [setRoutine_frame, hledger]
    exact Ledger.contains_remove hother hcontains
  · simp only [setRoutine_frame, subscriptions_apply, if_pos hreceived]
  · intro task'
    rw [cursor?_setRoutine, cursor?_apply, hid, hcurrent]
    by_cases hsame : task' = task
    · simp [hsame]
    · have hsame' : task ≠ task' := fun e => hsame e.symm
      simp [hsame, hsame']
  · intro task' hlarge
    simp only [setRoutine_frame, apply_frame] at hlarge
    rw [tasks_setRoutine, if_neg (by omega), tasks_apply,
      hs.numbered task' hlarge]
    split <;> rfl
  · intro hshut
    simp only [setRoutine_frame, apply_frame] at hshut
    rw [hrunning] at hshut
    cases hshut

end Service

end Redelivery
