import Redelivery.Proofs.Resend.Bystanders
import Redelivery.Proofs.Resend.Delivery

/-!
# What an operation reads

An operation on one message looks at what surrounds all messages and at what
belongs to its own.  So where two services agree on that, it does the same in
both, though the generations of their timers and the numbers of their tasks may
differ.
-/

namespace Redelivery

namespace Scheduler

variable {s : Scheduler} {id : MessageId}

/-- How long the timer of a message was set for, and when its time comes. -/
def waiting? (s : Scheduler) (id : MessageId) : Option (UInt64 × Nat) :=
  (s.timers.get? id).bind fun timer =>
    (s.sleepers.get? timer.generation).map fun sleeper =>
      (timer.delay, sleeper.due)

theorem waiting?_eq_none_of_timers (hnone : s.timers.get? id = none) :
    s.waiting? id = none := by
  rw [waiting?, hnone, Option.bind_none]

@[simp]
theorem waiting?_cancel (s : Scheduler) (id : MessageId) :
    (s.cancel id).waiting? id = none :=
  waiting?_eq_none_of_timers (by simp)

@[simp]
theorem waiting?_arm (s : Scheduler) (now : Nat) (id : MessageId)
    (delay : UInt64) :
    (s.arm now id delay).waiting? id =
      some (delay, now + sleepTime delay.toNat) := by
  simp [waiting?, arm]

/-- What is known of an armed timer but its generation. -/
theorem Matched.waiting?_eq (hmatched : s.Matched) {timer : Timer}
    (htimer : s.timers.get? id = some timer) :
    ∃ due, s.sleepers.get? timer.generation = some ⟨id, due⟩ ∧
      s.waiting? id = some (timer.delay, due) := by
  obtain ⟨due, hdue⟩ := hmatched.waiting id timer htimer
  exact ⟨due, hdue, by simp [waiting?, htimer, hdue]⟩

theorem Matched.armedDelay?_eq (hmatched : s.Matched) (id : MessageId) :
    s.armedDelay? id = (s.waiting? id).map Prod.fst := by
  cases htimer : s.timers.get? id with
  | none =>
    rw [armedDelay?, htimer, waiting?_eq_none_of_timers htimer, Option.map_none,
      Option.map_none]
  | some timer =>
    obtain ⟨due, -, hwaiting⟩ := hmatched.waiting?_eq htimer
    rw [armedDelay?, htimer, hwaiting, Option.map_some, Option.map_some]

end Scheduler

namespace Service

/-- All that surrounds the messages is as it was: the settings, the source and
both clocks. -/
structure Stays (s t : Service) : Prop where
  config : s.config = t.config
  source : s.source = t.source
  clock : s.clock = t.clock
  calendar : s.calendar = t.calendar
  shutDown : s.shutDown = t.shutDown

/-- Two services agree on a message, but for the generation of its timer and the
number of the task that follows it. -/
structure Agree (s t : Service) (id : MessageId) : Prop extends s.Stays t where
  record : s.ledger.get? id = t.ledger.get? id
  attempts : s.attempts? id = t.attempts? id
  timer : s.scheduler.waiting? id = t.scheduler.waiting? id
  follower : (s.subscriptions.get? id).map s.cursor? =
    (t.subscriptions.get? id).map t.cursor?

/-- Two services agree on a message, and a task of the one does next what a task
of the other does. -/
structure Concur (s t : Service) (id : MessageId)
    (task task' : Nat) : Prop where
  agree : s.Agree t id
  routine : s.tasks.get? task = t.tasks.get? task'

variable {s t u : Service} {id : MessageId} {r : Record} {task task' : Nat}

theorem stays_refl (s : Service) : s.Stays s :=
  ⟨rfl, rfl, rfl, rfl, rfl⟩

theorem Stays.symm (h : s.Stays t) : t.Stays s :=
  ⟨h.config.symm, h.source.symm, h.clock.symm, h.calendar.symm, h.shutDown.symm⟩

theorem Stays.trans (hst : s.Stays t) (htu : t.Stays u) : s.Stays u :=
  ⟨hst.config.trans htu.config, hst.source.trans htu.source,
    hst.clock.trans htu.clock,
    hst.calendar.trans htu.calendar, hst.shutDown.trans htu.shutDown⟩

theorem Agree.symm (h : s.Agree t id) : t.Agree s id :=
  ⟨h.toStays.symm, h.record.symm, h.attempts.symm, h.timer.symm,
    h.follower.symm⟩

theorem Agree.trans (hst : s.Agree t id) (htu : t.Agree u id) : s.Agree u id :=
  ⟨hst.toStays.trans htu.toStays, hst.record.trans htu.record,
    hst.attempts.trans htu.attempts,
    hst.timer.trans htu.timer, hst.follower.trans htu.follower⟩

/-- What leaves a message and its surroundings alone is agreed on. -/
theorem Leaves.agree (hleaves : s.Leaves t id) (hstays : s.Stays t) :
    s.Agree t id where
  toStays := hstays
  record := hleaves.record.symm
  attempts := hleaves.attempts.symm
  timer := by
    cases htimer : s.scheduler.timers.get? id with
    | none =>
      rw [Scheduler.waiting?_eq_none_of_timers htimer,
        Scheduler.waiting?_eq_none_of_timers (hleaves.timer.trans htimer)]
    | some timer =>
      simp only [Scheduler.waiting?, hleaves.timer, htimer, Option.bind_some,
        hleaves.sleeper timer htimer]
  follower := by
    rw [hleaves.subscription]
    cases hfollower : s.subscriptions.get? id with
    | none => rfl
    | some task =>
      rw [Option.map_some, Option.map_some, hleaves.cursor task hfollower]

theorem Agree.record?_eq (h : s.Agree t id) : s.record? id = t.record? id := by
  rw [record?, record?, Ledger.find?, Ledger.find?, h.record, h.calendar]

theorem Agree.get?_eq_none (h : s.Agree t id)
    (hnone : s.subscriptions.get? id = none) :
    t.subscriptions.get? id = none := by
  have hfollower := h.follower
  rw [hnone, Option.map_none] at hfollower
  exact Option.map_eq_none_iff.1 hfollower.symm

theorem Agree.isSome_eq (h : s.Agree t id) :
    (s.subscriptions.get? id).isSome = (t.subscriptions.get? id).isSome := by
  have hfollower := congrArg Option.isSome h.follower
  simpa using hfollower

theorem Agree.cursor?_eq (h : s.Agree t id)
    (hfollower : s.subscriptions.get? id = some task)
    (hfollower' : t.subscriptions.get? id = some task') :
    s.cursor? task = t.cursor? task' := by
  have hcursors := h.follower
  rw [hfollower, hfollower', Option.map_some, Option.map_some] at hcursors
  exact Option.some.inj hcursors

/-! ## The changes one by one -/

theorem stays_spawn (s : Service) (routine : Routine) :
    s.Stays (s.spawn routine) := by
  constructor <;> simp

theorem stays_setRoutine (s : Service) (task : Nat) (routine : Routine) :
    s.Stays (s.setRoutine task routine) := by
  constructor <;> simp

theorem stays_apply (s : Service) (r : Record) (origin : Option Nat) :
    s.Stays (s.apply r origin) := by
  constructor <;> simp

theorem stays_attachTracked (s : Service) (id : MessageId) :
    s.Stays (s.attachTracked id) := by
  constructor <;> simp

theorem Agree.spawn (h : s.Agree t id) (hs : s.Separate) (ht : t.Separate)
    (routine routine' : Routine) :
    (s.spawn routine).Agree (t.spawn routine') id := by
  have hfirst := (hs.leaves_spawn routine id).agree (s.stays_spawn routine)
  have hsecond := (ht.leaves_spawn routine' id).agree (t.stays_spawn routine')
  exact hfirst.symm.trans (h.trans hsecond)

theorem Agree.concur_spawn (h : s.Agree t id) (hs : s.Separate)
    (ht : t.Separate) (routine : Routine) :
    (s.spawn routine).Concur (t.spawn routine) id s.nextTask t.nextTask := by
  refine ⟨h.spawn hs ht routine routine, ?_⟩
  rw [tasks_spawn, tasks_spawn, if_pos rfl, if_pos rfl]

theorem Agree.apply (h : s.Agree t r.id) (hrunning : s.shutDown = false)
    (origin origin' : Option Nat) :
    (s.apply r origin).Agree (t.apply r origin') r.id where
  toStays := (s.stays_apply r origin).symm.trans
    (h.toStays.trans (t.stays_apply r origin'))
  record := by
    rw [ledger_apply, ledger_apply]
    split <;> simp
  attempts := by
    rw [attempts?, attempts?, ledger_apply, ledger_apply]
    split
    next => simp
    next => exact h.attempts
  timer := by
    rw [scheduler_apply hrunning,
      scheduler_apply (h.shutDown.symm.trans hrunning), ← h.config, ← h.clock]
    split <;> simp
  follower := by
    rw [subscriptions_apply, subscriptions_apply]
    by_cases hreceived : r.status.isReceived = true
    · simp [hreceived]
    · have hcursors (s : Service) (origin : Option Nat) :
          (s.apply r origin).cursor? = s.cursor? := by
        funext task
        simp [cursor?_apply, hreceived]
      rw [if_neg hreceived, if_neg hreceived, hcursors, hcursors]
      exact h.follower

theorem firstCursor_eq (h : s.Agree t id) (stream : StatusStream) :
    s.firstCursor id stream = t.firstCursor id stream := by
  rw [firstCursor, firstCursor, h.record?_eq]

/-- A task begins to follow the message in both services, with the same cursor,
or in neither. -/
theorem Agree.attach_cases (h : s.Agree t id) :
    (s.attach id = s ∧ t.attach id = t) ∨
      ∃ cursor : StatusCursor,
        s.attach id = { s.spawn (.follow cursor) with
          subscriptions := s.subscriptions.insert id s.nextTask } ∧
        t.attach id = { t.spawn (.follow cursor) with
          subscriptions := t.subscriptions.insert id t.nextTask } := by
  rcases Service.attach_cases s id with
    ⟨hsame, hrefused⟩ | ⟨stream, hopen, hfree, hcurrent, hattach⟩
  · rw [h.shutDown, h.isSome_eq, h.source] at hrefused
    exact .inl ⟨hsame, attach_of_refused hrefused⟩
  · have hopen' : t.shutDown = false := h.shutDown.symm.trans hopen
    rw [h.source] at hcurrent
    have hattach' := attach_of_current hopen' (h.get?_eq_none hfree) hcurrent
    rw [← firstCursor_eq h] at hattach'
    exact .inr ⟨_, hattach, hattach'⟩

theorem Agree.attach (h : s.Agree t id) :
    (s.attach id).Agree (t.attach id) id := by
  rcases h.attach_cases with ⟨hs, ht⟩ | ⟨cursor, hs, ht⟩
  · rwa [hs, ht]
  · rw [hs, ht]
    exact ⟨⟨h.config, h.source, h.clock, h.calendar, h.shutDown⟩, h.record,
      h.attempts, h.timer, by simp [cursor?, tasks_spawn]⟩

/-- An attempt for a message is claimed in both services or in neither. -/
theorem Agree.claim_cases (h : s.Agree t id) (bound : ResendBound) :
    (s.claim id bound false = none ∧ t.claim id bound false = none) ∨
      ∃ r s' t', s.claim id bound false = some (r, s') ∧
        t.claim id bound false = some (r, t') ∧
        s'.Agree t' id := by
  have hclaims {s t : Service} (h : s.Agree t id) {r : Record} {s' : Service}
      (hclaim : s.claim id bound false = some (r, s')) :
      ∃ t', t.claim id bound false = some (r, t') ∧ s'.Agree t' id := by
    obtain ⟨hlive, _, hbound, hwithin, rfl⟩ := claim_eq_some_iff.1 hclaim
    rw [h.record?_eq] at hlive
    rw [h.attempts, h.config] at hwithin
    refine ⟨_, claim_eq_some_iff.2 ⟨hlive, nofun, hbound, hwithin, rfl⟩,
      ⟨h.config, h.source, h.clock, h.calendar, h.shutDown⟩, h.record, ?_,
      h.timer, h.follower⟩
    simp only [attempts?, Ledger.attempts?_setAttempts, if_pos]
    rw [← attempts?, ← attempts?, h.attempts]
  cases hclaim : s.claim id bound false with
  | some claimed =>
    obtain ⟨t', ht, hagree⟩ := hclaims h hclaim
    exact .inr ⟨claimed.1, claimed.2, t', rfl, ht, hagree⟩
  | none =>
    cases hclaim' : t.claim id bound false with
    | none => exact .inl ⟨rfl, rfl⟩
    | some claimed =>
      obtain ⟨s', hs, _⟩ := hclaims h.symm hclaim'
      cases hclaim.symm.trans hs

theorem Agree.woken (h : s.Agree t id) {generation generation' : Nat}
    (hcurrent : s.scheduler.isCurrent id generation = true)
    (hcurrent' : t.scheduler.isCurrent id generation' = true) :
    (s.woken generation id).Agree (t.woken generation' id) id where
  toStays := ⟨h.config, h.source, h.clock, h.calendar, h.shutDown⟩
  record := h.record
  attempts := h.attempts
  timer := by
    have hgone {s : Scheduler} {generation : Nat}
        (hcurrent : s.isCurrent id generation = true) :
        ((s.wake generation).complete id generation).waiting? id = none := by
      apply Scheduler.waiting?_eq_none_of_timers
      rw [Scheduler.timers_complete_wake hcurrent, if_pos rfl]
    exact (hgone hcurrent).trans (hgone hcurrent').symm
  follower := h.follower

/-- The task that follows the message goes on in the same way in both
services. -/
theorem Agree.setRoutine (h : s.Agree t id)
    (hfollower : s.subscriptions.get? id = some task)
    (hfollower' : t.subscriptions.get? id = some task') (routine : Routine) :
    (s.setRoutine task routine).Agree (t.setRoutine task' routine) id where
  toStays := (s.stays_setRoutine task routine).symm.trans
    (h.toStays.trans (t.stays_setRoutine task' routine))
  record := by simpa using h.record
  attempts := by simpa [attempts?] using h.attempts
  timer := by simpa using h.timer
  follower := by simp [hfollower, hfollower']

/-- A task goes on that does not follow the message. -/
theorem Agree.setRoutine_of_other (h : s.Agree t id)
    (hother : s.subscriptions.get? id ≠ some task)
    (hother' : t.subscriptions.get? id ≠ some task') (routine : Routine) :
    (s.setRoutine task routine).Agree (t.setRoutine task' routine) id := by
  have hfirst :=
    (leaves_setRoutine hother routine).agree (s.stays_setRoutine task routine)
  have hsecond :=
    (leaves_setRoutine hother' routine).agree (t.stays_setRoutine task' routine)
  exact hfirst.symm.trans (h.trans hsecond)

theorem Agree.unfollow (h : s.Agree t id) :
    ({ s with subscriptions := s.subscriptions.erase id } : Service).Agree
      { t with subscriptions := t.subscriptions.erase id } id :=
  ⟨⟨h.config, h.source, h.clock, h.calendar, h.shutDown⟩, h.record, h.attempts,
    h.timer, by simp⟩

/-! ## The operations -/

def worker (s : Service) : Operation → Nat
  | .notice id => (s.subscriptions.get? id).getD s.nextTask
  | _ => s.nextTask

/-- A task that was just started stays as it is while others come and go. -/
theorem Numbered.get?_spawned (hs : s.Numbered) {routine : Routine}
    (hleaves : (s.spawn routine).LeavesOwn t) :
    t.tasks.get? s.nextTask = some routine := by
  rw [hleaves.tasks _ (hs.own_spawn routine), tasks_spawn, if_pos rfl]

theorem step_register_of_shutDown (hshut : s.shutDown = true) :
    s.step (.register r) = s.spawn (.answer 0) := by
  simp [step, register, hshut]

theorem step_register_of_owed (hrunning : s.shutDown = false)
    (howed : r.status.isReceived = false) :
    s.step (.register r) =
      ((s.spawn (.save (.answer 0))).apply r none).attach r.id := by
  simp [step, register, hrunning, DeliveryStatus.detach_classify, howed]

theorem Agree.concur_register (h : s.Agree t r.id) (hs : s.Separate)
    (ht : t.Separate) :
    (s.step (.register r)).Concur (t.step (.register r)) r.id s.nextTask
      t.nextTask := by
  cases hshut : s.shutDown with
  | true =>
    rw [step_register_of_shutDown hshut,
      step_register_of_shutDown (h.shutDown.symm.trans hshut)]
    exact h.concur_spawn hs ht _
  | false =>
    have hshut' : t.shutDown = false := h.shutDown.symm.trans hshut
    have happlied :=
      (h.spawn hs ht (.save (.answer 0)) (.save (.answer 0))).apply
        hshut none none
    have hfirst := leavesOwn_apply (s.spawn (.save (.answer 0))) r none
    have hsecond := leavesOwn_apply (t.spawn (.save (.answer 0))) r none
    cases hreceived : r.status.isReceived with
    | true =>
      rw [step_register_of_isReceived hshut hreceived,
        step_register_of_isReceived hshut' hreceived]
      refine ⟨happlied, ?_⟩
      rw [hs.numbered.get?_spawned hfirst, ht.numbered.get?_spawned hsecond]
    | false =>
      rw [step_register_of_owed hshut hreceived,
        step_register_of_owed hshut' hreceived]
      refine ⟨happlied.attach, ?_⟩
      rw [hs.numbered.get?_spawned (hfirst.trans (leavesOwn_attach _ r.id)),
        ht.numbered.get?_spawned (hsecond.trans (leavesOwn_attach _ r.id))]

theorem nextTask_of_claim {bound : ResendBound} {sweeping : Bool}
    (hclaim : s.claim id bound sweeping = some (r, t)) :
    t.nextTask = s.nextTask := by
  obtain ⟨_, _, _, _, rfl⟩ := claim_eq_some_iff.1 hclaim
  rfl

theorem step_resend_of_refused
    (hrefused : s.shutDown = true ∨ s.claim id .manual false = none) :
    s.step (.resend id) = s.spawn (.answer 0) := by
  rcases hrefused with hshut | hclaim
  · simp [step, resend, hshut]
  · simp [step, resend, hclaim]

theorem Agree.concur_resend (h : s.Agree t id) (hs : s.Separate)
    (ht : t.Separate) :
    (s.step (.resend id)).Concur (t.step (.resend id)) id s.nextTask
      t.nextTask := by
  cases hshut : s.shutDown with
  | true =>
    rw [step_resend_of_refused (.inl hshut),
      step_resend_of_refused (.inl (h.shutDown.symm.trans hshut))]
    exact h.concur_spawn hs ht _
  | false =>
    have hshut' : t.shutDown = false := h.shutDown.symm.trans hshut
    rcases h.claim_cases .manual with ⟨hclaim, hclaim'⟩ |
      ⟨r, s', t', hclaim, hclaim', hagree⟩
    · rw [step_resend_of_refused (.inr hclaim),
        step_resend_of_refused (.inr hclaim')]
      exact h.concur_spawn hs ht _
    · rw [step_of_resends hshut hclaim, step_of_resends hshut' hclaim',
        ← nextTask_of_claim hclaim, ← nextTask_of_claim hclaim']
      exact hagree.concur_spawn (hs.claim hclaim) (ht.claim hclaim') _

/-- An operation that comes to nothing starts no task. -/
theorem Agree.concur_nothing (h : s.Agree t id) (hs : s.Separate)
    (ht : t.Separate) :
    s.Concur t id s.nextTask t.nextTask :=
  ⟨h, by rw [hs.unused _ (Nat.le_refl _), ht.unused _ (Nat.le_refl _)]⟩

theorem Agree.concur_attach (h : s.Agree t id) (hs : s.Separate)
    (ht : t.Separate) :
    (s.attach id).Concur (t.attach id) id s.nextTask t.nextTask := by
  refine ⟨h.attach, ?_⟩
  rcases h.attach_cases with ⟨hsame, hsame'⟩ | ⟨cursor, hattach, hattach'⟩
  · rw [hsame, hsame']
    exact (h.concur_nothing hs ht).routine
  · simp only [hattach, hattach', tasks_spawn, if_pos]

theorem Agree.concur_attachTracked (h : s.Agree t id) (hs : s.Separate)
    (ht : t.Separate) :
    (s.attachTracked id).Concur (t.attachTracked id) id s.nextTask
      t.nextTask := by
  rw [attachTracked, attachTracked, ← h.record?_eq]
  split
  next => exact h.concur_attach hs ht
  next => exact h.concur_nothing hs ht

theorem step_wake_of_early {generation : Nat} {sleeper : Sleeper}
    (hsleeper : s.scheduler.sleepers.get? generation = some sleeper)
    (hearly : ¬sleeper.due ≤ s.clock) : s.step (.wake generation) = s := by
  simp [step, wake, hsleeper, hearly]

theorem step_of_exhausts {generation : Nat} {sleeper : Sleeper}
    (hsleeper : s.scheduler.sleepers.get? generation = some sleeper)
    (hdue : sleeper.due ≤ s.clock)
    (hcurrent : s.scheduler.isCurrent sleeper.id generation = true)
    (hrunning : s.shutDown = false)
    (hclaim : (s.woken generation sleeper.id).claim sleeper.id .automatic
      false = none) :
    s.step (.wake generation) = s.woken generation sleeper.id := by
  have hstays : (s.scheduler.wake generation).isCurrent sleeper.id generation =
      true := hcurrent
  simp only [step, wake, hsleeper, if_pos hdue, fire, hstays]
  rw [if_neg (by simp [hrunning])]
  split
  next => rfl
  next r' claimed hgranted => cases hclaim.symm.trans hgranted

/-- The timers of the message were armed for the same time. -/
theorem Agree.sleepers_eq (h : s.Agree t id) (hs : s.Separate) (ht : t.Separate)
    {timer : Timer} (htimer : s.scheduler.timers.get? id = some timer) :
    ∃ timer' due, t.scheduler.timers.get? id = some timer' ∧
      s.scheduler.sleepers.get? timer.generation = some ⟨id, due⟩ ∧
      t.scheduler.sleepers.get? timer'.generation = some ⟨id, due⟩ := by
  obtain ⟨due, hdue, hwaiting⟩ := hs.matched.waiting?_eq htimer
  cases htimer' : t.scheduler.timers.get? id with
  | none =>
    rw [h.timer, Scheduler.waiting?_eq_none_of_timers htimer'] at hwaiting
    cases hwaiting
  | some timer' =>
    obtain ⟨due', hdue', hwaiting'⟩ := ht.matched.waiting?_eq htimer'
    rw [h.timer, hwaiting', Option.some.injEq, Prod.mk.injEq] at hwaiting
    rw [hwaiting.2] at hdue'
    exact ⟨timer', due, rfl, hdue, hdue'⟩

theorem Agree.concur_fire (h : s.Agree t id) (hs : s.Separate)
    (ht : t.Separate) :
    (s.undertake (.fire id)).Concur
      (t.undertake (.fire id)) id s.nextTask t.nextTask := by
  cases htimer : s.scheduler.timers.get? id with
  | none =>
    cases htimer' : t.scheduler.timers.get? id with
    | none =>
      simp only [undertake, htimer, htimer']
      exact h.concur_nothing hs ht
    | some timer' =>
      obtain ⟨timer, _, hsome, _⟩ := h.symm.sleepers_eq ht hs htimer'
      cases htimer.symm.trans hsome
  | some timer =>
    obtain ⟨timer', due, htimer', hdue, hdue'⟩ := h.sleepers_eq hs ht htimer
    obtain ⟨hrunning, hcurrent⟩ := hs.isCurrent hdue
    obtain ⟨hrunning', hcurrent'⟩ := ht.isCurrent hdue'
    simp only [undertake, htimer, htimer']
    by_cases hearly : due ≤ s.clock
    · have hearly' : due ≤ t.clock := h.clock ▸ hearly
      have hwoken := h.woken hcurrent hcurrent'
      have hs' := hs.woken hcurrent
      have ht' := ht.woken hcurrent'
      rcases hwoken.claim_cases .automatic with
        ⟨hclaim, hclaim'⟩ | ⟨r, u, v, hclaim, hclaim', hagree⟩
      · rw [step_of_exhausts hdue hearly hcurrent hrunning hclaim,
          step_of_exhausts hdue' hearly' hcurrent' hrunning' hclaim']
        exact hwoken.concur_nothing hs' ht'
      · rw [step_of_fires hdue hearly hcurrent hrunning hclaim,
          step_of_fires hdue' hearly' hcurrent' hrunning' hclaim']
        have hconcur := hagree.concur_spawn (hs'.claim hclaim)
          (ht'.claim hclaim') (.save (.send r .stop))
        rw [nextTask_of_claim hclaim, nextTask_of_claim hclaim'] at hconcur
        exact hconcur
    · have hearly' : ¬due ≤ t.clock := h.clock ▸ hearly
      rw [step_wake_of_early hdue hearly, step_wake_of_early hdue' hearly']
      exact h.concur_nothing hs ht

theorem step_of_drops {cursor : StatusCursor}
    (htask : s.tasks.get? task = some (.follow cursor))
    (hfollower : s.subscriptions.get? cursor.id = some task)
    (hover : s.source.next cursor = (.closed, cursor) ∨
      s.shutDown = false ∧
        (∃ status seen, s.source.next cursor = (.changed status, seen)) ∧
        s.record? cursor.id = none) :
    s.step (.resume task true) =
      ({ s with subscriptions := s.subscriptions.erase cursor.id } :
        Service).setRoutine task
        .stop := by
  rcases hover with hclosed | ⟨hrunning, ⟨status, seen, hchanged⟩, hnone⟩
  · have hready : s.isReady (.follow cursor) = true := by
      obtain ⟨_, hended, _⟩ := StatusSource.next_eq_closed_iff.1 hclosed
      simp [isReady, hended]
    rw [step_of_ready htask hready, work_follow]
    simp only [hclosed, hfollower, if_true]
  · obtain ⟨stream, hunseen, _, _⟩ :=
      StatusSource.next_eq_changed_iff.1 hchanged
    have hid : seen.id = cursor.id :=
      (StatusSource.id_of_next_eq_changed hchanged).1
    rw [step_of_ready htask (by simp [isReady, hunseen]), work_follow]
    simp [hchanged, onStatus, hrunning, hid, hfollower, hnone]

theorem step_of_leaves {cursor seen : StatusCursor} {status : DeliveryStatus}
    (htask : s.tasks.get? task = some (.follow cursor))
    (hshut : s.shutDown = true)
    (hchanged : s.source.next cursor = (.changed status, seen)) :
    s.step (.resume task true) = s.setRoutine task .stop := by
  obtain ⟨stream, hunseen, _, _⟩ := StatusSource.next_eq_changed_iff.1 hchanged
  rw [step_of_ready htask (by simp [isReady, hunseen]), work_follow]
  simp [hchanged, onStatus, hshut]

theorem step_of_follows_unchanged {cursor seen : StatusCursor}
    (htask : s.tasks.get? task = some (.follow cursor))
    (hsame : s.source.next cursor = (.unchanged, seen)) :
    s.step (.resume task true) = s := by
  obtain ⟨hnone, hopen, _⟩ := StatusSource.next_eq_unchanged_iff.1 hsame
  exact step_of_idle htask
    (by simp [isReady, hnone, ← Option.not_isSome, hopen])

theorem get?_setRoutine_eq (s t : Service) (task task' : Nat)
    (routine : Routine) :
    (s.setRoutine task routine).tasks.get? task =
      (t.setRoutine task' routine).tasks.get? task' := by
  rw [tasks_setRoutine, tasks_setRoutine, if_pos rfl, if_pos rfl]

/-- A task that follows a message takes up what it sees. -/
theorem Agree.concur_resume {cursor : StatusCursor} (h : s.Agree t cursor.id)
    (hkeyed : s.ledger.Keyed)
    (hfollower : s.subscriptions.get? cursor.id = some task)
    (hfollower' : t.subscriptions.get? cursor.id = some task')
    (htask : s.tasks.get? task = some (.follow cursor))
    (htask' : t.tasks.get? task' = some (.follow cursor)) :
    (s.step (.resume task true)).Concur
      (t.step (.resume task' true)) cursor.id task task' := by
  have hdropped :
      (({ s with subscriptions := s.subscriptions.erase cursor.id } :
      Service).setRoutine task .stop).Concur
      (({ t with subscriptions := t.subscriptions.erase cursor.id } :
        Service).setRoutine task' .stop) cursor.id task task' :=
    ⟨h.unfollow.setRoutine_of_other (by simp) (by simp) .stop,
      get?_setRoutine_eq ..⟩
  have hsource : s.source.next cursor = t.source.next cursor := by rw [h.source]
  cases hnext : s.source.next cursor with
  | mk sighting seen =>
    rw [hnext] at hsource
    cases sighting with
    | unchanged =>
      rw [step_of_follows_unchanged htask hnext,
        step_of_follows_unchanged htask' hsource.symm]
      exact ⟨h, htask.trans htask'.symm⟩
    | closed =>
      obtain ⟨_, _, rfl⟩ := StatusSource.next_eq_closed_iff.1 hnext
      rw [step_of_drops htask hfollower (.inl hnext),
        step_of_drops htask' hfollower' (.inl hsource.symm)]
      exact hdropped
    | changed status =>
      cases hshut : s.shutDown with
      | true =>
        rw [step_of_leaves htask hshut hnext,
          step_of_leaves htask' (h.shutDown.symm.trans hshut) hsource.symm]
        exact ⟨h.setRoutine hfollower hfollower' .stop, get?_setRoutine_eq ..⟩
      | false =>
        have hshut' : t.shutDown = false := h.shutDown.symm.trans hshut
        cases hlive : s.record? cursor.id with
        | none =>
          have hlive' : t.record? cursor.id = none :=
            h.record?_eq.symm.trans hlive
          rw [step_of_drops htask hfollower
              (.inr ⟨hshut, ⟨status, seen, hnext⟩, hlive⟩), step_of_drops htask'
              hfollower' (.inr ⟨hshut', ⟨status, seen, hsource.symm⟩, hlive'⟩)]
          exact hdropped
        | some r =>
          have hhears : s.Hears task cursor seen status r :=
            ⟨htask, hnext, hshut, hfollower, hlive⟩
          have hhears' : t.Hears task' cursor seen status r :=
            ⟨htask', hsource.symm, hshut', hfollower',
              h.record?_eq.symm.trans hlive⟩
          rw [step_of_hears hhears, step_of_hears hhears']
          refine ⟨?_, get?_setRoutine_eq ..⟩
          have hid : (r.withStatus status).id = cursor.id := hhears.id_eq hkeyed
          have happlied : (s.apply (r.withStatus status) (some task)).Agree
              (t.apply (r.withStatus status) (some task')) cursor.id := by
            rw [← hid] at h ⊢
            exact h.apply hshut _ _
          by_cases hreceived : (r.withStatus status).status.isReceived = true
          · apply happlied.setRoutine_of_other
              <;> simp [subscriptions_apply, hreceived, hid]
          · apply happlied.setRoutine <;> simpa [subscriptions_apply, hreceived]

/-- Where two services agree on a message, an operation on it does the same in
both. -/
theorem Agree.concur_undertake {p : Operation} (h : s.Agree t p.id)
    (hs : s.Separate) (ht : t.Separate) (hkeyed : s.ledger.Keyed)
    (hoffers : s.Offers p) (hoffers' : t.Offers p) :
    (s.undertake p).Concur (t.undertake p) p.id (s.worker p) (t.worker p) := by
  cases p with
  | register r => exact h.concur_register hs ht
  | resend id => exact h.concur_resend hs ht
  | fire id => exact h.concur_fire hs ht
  | notice id =>
    obtain ⟨task, cursor, hfollower, htask⟩ := hoffers
    obtain ⟨task', cursor', hfollower', htask'⟩ := hoffers'
    have hcursor : s.cursor? task = some cursor := cursor?_of_get? htask
    have hsame : cursor' = cursor := by
      have hcursors : s.cursor? task = t.cursor? task' :=
        h.cursor?_eq hfollower hfollower'
      rw [hcursor, cursor?_of_get? htask'] at hcursors
      exact (Option.some.inj hcursors).symm
    obtain rfl : cursor.id = id := hs.own id task cursor hfollower hcursor
    rw [hsame] at htask'
    simp only [undertake, worker, Operation.id, hfollower, hfollower',
      Option.getD_some]
    exact h.concur_resume hkeyed hfollower hfollower' htask htask'
  | follow id => exact h.concur_attachTracked hs ht

end Service

end Redelivery
