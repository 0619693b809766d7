import Redelivery.Proofs.Resend.Answers
import Redelivery.Proofs.Resend.Followers

/-!
# What belongs to one message

Timers, subscriptions and tasks stand in tables that all messages share.  A
generation and the number of a task are given out once, so no timer and no task
belongs to two messages, whatever the ledger holds under which id.
-/

namespace Redelivery.Service

/-- No timer and no task that follows a message belongs to another message as
well. -/
structure Separate (s : Service) : Prop where
  matched : s.scheduler.Matched
  numbered : s.Numbered
  unused : ∀ task, s.nextTask ≤ task → s.tasks.get? task = none
  single : ∀ id id' task, s.subscriptions.get? id = some task →
    s.subscriptions.get? id' = some task → id' = id
  own : ∀ id task cursor, s.subscriptions.get? id = some task →
    s.cursor? task = some cursor → cursor.id = id
  ended : s.shutDown = true → ∀ id, s.scheduler.timers.get? id = none

variable {s t : Service} {e : Event} {id : MessageId} {r : Record} {task : Nat}
  {routine : Routine}

theorem Separate.lt_nextTask (hs : s.Separate)
    (htask : s.tasks.get? task = some routine) :
    task < s.nextTask := by
  apply Nat.lt_of_not_le
  intro hlarge
  rw [hs.unused task hlarge] at htask
  cases htask

theorem Fresh.separate (hs : s.Fresh) : s.Separate where
  matched := by
    rw [hs.scheduler]
    exact Scheduler.matched_empty
  numbered := numbered_run hs []
  unused := by
    intro task _
    simp [hs.tasks]
  single := by
    intro id id' task hfollower
    simp [hs.subscriptions] at hfollower
  own := by
    intro id task cursor hfollower
    simp [hs.subscriptions] at hfollower
  ended := by
    intro _ id
    simp [hs.scheduler, Scheduler.empty]

/-- What takes subscriptions and cursors away, or changes what a cursor has
seen, leaves nothing that belongs to two messages. -/
theorem Separate.narrow (hs : s.Separate) (hleaves : s.LeavesOwn t)
    (hmatched : t.scheduler.Matched)
    (hunused : ∀ task, t.nextTask ≤ task → t.tasks.get? task = none)
    (hfollowers : ∀ id task, t.subscriptions.get? id = some task →
      s.subscriptions.get? id = some task)
    (hcursors : ∀ task cursor, t.cursor? task = some cursor →
      ∃ old, s.cursor? task = some old ∧ old.id = cursor.id)
    (hended : t.shutDown = true → ∀ id, t.scheduler.timers.get? id = none) :
    t.Separate where
  matched := hmatched
  numbered := hleaves.numbered hs.numbered
  unused := hunused
  single := fun id id' task hfollower hfollower' =>
    hs.single id id' task (hfollowers id task hfollower)
      (hfollowers id' task hfollower')
  own := by
    intro id task cursor hfollower hcursor
    obtain ⟨old, hold, hid⟩ := hcursors task cursor hcursor
    rw [← hid]
    exact hs.own id task old (hfollowers id task hfollower) hold
  ended := hended

theorem Separate.congr (hs : s.Separate)
    (hscheduler : t.scheduler = s.scheduler)
    (hsubscriptions : t.subscriptions = s.subscriptions)
    (hbackground : t.background = s.background) (htasks : t.tasks = s.tasks)
    (hnext : t.nextTask = s.nextTask) (hshut : t.shutDown = s.shutDown) :
    t.Separate where
  matched := hscheduler ▸ hs.matched
  numbered := by
    refine ⟨?_, ?_⟩
    · rw [hbackground, hnext]
      exact hs.numbered.background
    · rw [hsubscriptions, hnext]
      exact hs.numbered.followers
  unused := by
    rw [hnext, htasks]
    exact hs.unused
  single := hsubscriptions ▸ hs.single
  own := by
    simp only [cursor?, hsubscriptions, htasks]
    exact hs.own
  ended := by
    rw [hshut, hscheduler]
    exact hs.ended

/-! ## Tasks -/

/-- A new task follows nothing yet. -/
theorem Separate.spawn (hs : s.Separate) (routine : Routine) :
    (s.spawn routine).Separate where
  matched := hs.matched
  numbered := (leavesOwn_spawn s routine).numbered hs.numbered
  unused := by
    intro task hlarge
    have hlarge : s.nextTask + 1 ≤ task := hlarge
    rw [tasks_spawn, if_neg (by omega)]
    exact hs.unused task (by omega)
  single := hs.single
  own := by
    intro id task cursor hfollower hcursor
    have hold : task ≠ s.nextTask :=
      Nat.ne_of_lt (hs.numbered.followers id task hfollower)
    rw [cursor?_spawn, if_neg hold] at hcursor
    exact hs.own id task cursor hfollower hcursor
  ended := hs.ended

/-- A task goes on with something else, and follows what it followed or
nothing. -/
theorem Separate.setRoutine (hs : s.Separate) (hbegun : task < s.nextTask)
    (hcursors : ∀ cursor, routine.cursor? = some cursor →
      ∃ old, s.cursor? task = some old ∧ old.id = cursor.id) :
    (s.setRoutine task routine).Separate where
  matched := by simpa using hs.matched
  numbered := hs.numbered.setRoutine routine
  unused := by
    intro task' hlarge
    simp only [setRoutine_frame] at hlarge
    rw [tasks_setRoutine, if_neg (by omega)]
    exact hs.unused task' hlarge
  single := by simpa using hs.single
  own := by
    intro id task' cursor hfollower hcursor
    simp only [setRoutine_frame] at hfollower
    rw [cursor?_setRoutine] at hcursor
    split at hcursor
    next hsame =>
      obtain ⟨old, hold, hid⟩ := hcursors cursor hcursor
      rw [← hid]
      exact hs.own id task old (hsame ▸ hfollower) hold
    next => exact hs.own id task' cursor hfollower hcursor
  ended := by simpa using hs.ended

theorem Separate.setRoutine_of_none (hs : s.Separate)
    (hbegun : task < s.nextTask) (hnone : routine.cursor? = none) :
    (s.setRoutine task routine).Separate := by
  refine hs.setRoutine hbegun ?_
  intro cursor hcursor
  rw [hnone] at hcursor
  cases hcursor

theorem Separate.launch (hs : s.Separate) (routine : Routine) :
    (s.launch routine).Separate where
  matched := hs.matched
  numbered := (leavesOwn_launch s routine).numbered hs.numbered
  unused := (hs.spawn routine).unused
  single := hs.single
  own := (hs.spawn routine).own
  ended := hs.ended

/-! ## Subscriptions -/

theorem Separate.attach (hs : s.Separate) (id : MessageId) :
    (s.attach id).Separate := by
  have hnumbered := (leavesOwn_attach s id).numbered hs.numbered
  rcases attach_cases s id with ⟨hsame, _⟩ | ⟨stream, _, _, _, hattach⟩
  · rwa [hsame]
  rw [hattach] at hnumbered ⊢
  have hspawned := hs.spawn (.follow (s.firstCursor id stream))
  refine ⟨hs.matched, hnumbered, hspawned.unused, ?_, ?_, hs.ended⟩
  · intro first second task hfirst hsecond
    simp only [Table.get?_insert] at hfirst hsecond
    split at hfirst
    next hsame =>
      cases hfirst
      split at hsecond
      next hsame' => rw [hsame, hsame']
      next =>
        exact absurd (hs.numbered.followers second _ hsecond) (Nat.lt_irrefl _)
    next =>
      split at hsecond
      next =>
        cases hsecond
        exact absurd (hs.numbered.followers first _ hfirst) (Nat.lt_irrefl _)
      next => exact hs.single first second task hfirst hsecond
  · intro id' task cursor hfollower hcursor
    simp only [Table.get?_insert] at hfollower
    split at hfollower
    next hsame =>
      cases hfollower
      simp only [cursor?, tasks_spawn, if_pos] at hcursor
      cases hcursor
      exact hsame.symm
    next => exact hspawned.own id' task cursor hfollower hcursor

theorem Separate.attachTracked (hs : s.Separate) (id : MessageId) :
    (s.attachTracked id).Separate :=
  attachTracked_elim hs fun _ => hs.attach id

theorem Separate.attachKnown (hs : s.Separate) : s.attachKnown.Separate :=
  attachKnown_induction hs fun _ id ht => ht.attachTracked id

theorem Separate.begun (hs : s.Separate) : s.begun.Separate := by
  have hstarted : ({ s with started := true } : Service).Separate :=
    hs.congr rfl rfl rfl rfl rfl rfl
  exact List.foldlRecOn _ Service.launch hstarted.attachKnown
    fun _ ht routine _ => ht.launch routine

/-- A message is no longer followed. -/
theorem Separate.unfollow (hs : s.Separate) (id : MessageId) :
    ({ s with subscriptions := s.subscriptions.erase id } :
      Service).Separate := by
  have hfollowers : ∀ id' task,
      (s.subscriptions.erase id).get? id' = some task →
      s.subscriptions.get? id' = some task := by
    intro id' task hfollower
    rw [Table.get?_erase] at hfollower
    split at hfollower
    next => cases hfollower
    next => exact hfollower
  refine hs.narrow ?_ hs.matched hs.unused hfollowers
    (fun _ cursor h => ⟨cursor, h, rfl⟩) hs.ended
  exact .of_same rfl (fun _ h => h)
    (fun id' task h => ⟨id', hfollowers id' task h⟩) fun _ _ => rfl

/-! ## Timers and records -/

theorem matched_apply (hs : s.scheduler.Matched) (hrunning : s.shutDown = false)
    (r : Record) (origin : Option Nat) :
    (s.apply r origin).scheduler.Matched := by
  rw [scheduler_apply hrunning]
  split
  next => exact hs.arm _ _ _
  next => exact hs.cancel _

theorem Separate.apply (hs : s.Separate) (hrunning : s.shutDown = false)
    (r : Record) (origin : Option Nat) : (s.apply r origin).Separate := by
  refine hs.narrow (leavesOwn_apply s r origin)
    (matched_apply hs.matched hrunning r origin) ?_ ?_ ?_ ?_
  · intro task hlarge
    rw [(apply_frame s r origin).2.2.1] at hlarge
    rw [tasks_apply, hs.unused task hlarge]
    split <;> rfl
  · intro id task hfollower
    rw [subscriptions_apply] at hfollower
    split at hfollower
    next =>
      rw [Table.get?_erase] at hfollower
      split at hfollower
      next => cases hfollower
      next => exact hfollower
    next => exact hfollower
  · exact fun _ cursor hcursor => ⟨cursor, cursor?_of_apply hcursor, rfl⟩
  · intro hshut
    rw [(apply_frame s r origin).2.2.2.2.1, hrunning] at hshut
    cases hshut

theorem Separate.claim (hs : s.Separate) {bound : ResendBound} {sweeping : Bool}
    (hclaim : s.claim id bound sweeping = some (r, t)) : t.Separate := by
  obtain ⟨_, _, _, _, rfl⟩ := claim_eq_some_iff.1 hclaim
  exact hs.congr rfl rfl rfl rfl rfl rfl

theorem Separate.woken (hs : s.Separate) {generation : Nat}
    (hcurrent : s.scheduler.isCurrent id generation = true) :
    (s.woken generation id).Separate where
  matched := hs.matched.complete_wake hcurrent
  numbered := ⟨hs.numbered.background, hs.numbered.followers⟩
  unused := hs.unused
  single := hs.single
  own := hs.own
  ended := by
    intro hshut id'
    simp only [Service.woken]
    rw [Scheduler.timers_complete_wake hcurrent]
    split
    next => rfl
    next => exact hs.ended hshut id'

/-- No timer's time comes that is not armed. -/
theorem Separate.isCurrent (hs : s.Separate) {generation : Nat}
    {sleeper : Sleeper}
    (hsleeper : s.scheduler.sleepers.get? generation = some sleeper) :
    s.shutDown = false ∧
    s.scheduler.isCurrent sleeper.id generation = true := by
  obtain ⟨delay, harmed⟩ := hs.matched.armed generation sleeper hsleeper
  refine ⟨?_, Scheduler.isCurrent_iff.2 ⟨delay, harmed⟩⟩
  rw [Bool.eq_false_iff]
  intro hshut
  rw [hs.ended hshut sleeper.id] at harmed
  cases harmed

theorem Separate.shutdown (hs : s.Separate) (hrunning : s.shutDown = false) :
    s.shutdown.Separate := by
  have hleaves := leavesOwn_shutdown hrunning
  rw [shutdown_eq hrunning] at hleaves ⊢
  refine hs.narrow hleaves hs.matched.cancelAll ?_ (by simp) ?_ ?_
  · intro task hlarge
    simp only [tasks_foldl_abort, hs.unused task hlarge]
    split <;> rfl
  · intro task cursor hcursor
    simp only [cursor?, tasks_foldl_abort] at hcursor ⊢
    split at hcursor
    next => cases hcursor
    next => exact ⟨cursor, hcursor, rfl⟩
  · exact fun _ id => Scheduler.timers_cancelAll s.scheduler id

/-! ## Runs -/

theorem Separate.transition (htransition : Transition s e t) (hs : s.Separate) :
    t.Separate := by
  cases htransition with
  | start => exact hs.begun
  | shutdown hrunning => exact hs.shutdown hrunning
  | refuse | sweep => exact hs.spawn _
  | retire r hrunning => exact (hs.spawn _).apply hrunning r none
  | enroll r hrunning => exact ((hs.spawn _).apply hrunning r none).attach r.id
  | resend id r claimed _ hclaim => exact (hs.claim hclaim).spawn _
  | lapse generation sleeper hsleeper hstale =>
    obtain ⟨hrunning, hcurrent⟩ := hs.isCurrent hsleeper
    simp [hrunning, hcurrent] at hstale
  | exhaust generation sleeper _ _ _ hcurrent => exact hs.woken hcurrent
  | fire generation sleeper r claimed _ _ _ hcurrent hclaim =>
    exact ((hs.woken hcurrent).claim hclaim).spawn _
  | chore task saved old left u htask _ hchore =>
    have hbegun := hs.lt_nextTask htask
    have hcursor : left.cursor? = old.cursor? := by cases hchore <;> simp
    have hkept : ∀ cursor, left.cursor? = some cursor →
        ∃ before, s.cursor? task = some before ∧ before.id = cursor.id := by
      intro cursor hleft
      exact ⟨cursor, by rw [cursor?_of_get? htask, ← hcursor, hleft], rfl⟩
    have hu : u.Separate := by
      cases hchore <;> exact hs.congr rfl rfl rfl rfl rfl rfl
    refine hu.setRoutine ?_ ?_
    · cases hchore <;> exact hbegun
    · cases hchore <;> exact hkept
  | catchUp task saved id rest resent watching r claimed htask _ hclaim =>
    have hclaimed := hs.claim hclaim
    have hbegun := hs.lt_nextTask htask
    obtain ⟨_, _, _, _, rfl⟩ := claim_eq_some_iff.1 hclaim
    exact hclaimed.setRoutine_of_none hbegun rfl
  | restate task saved cursor seen status r hhears =>
    have hbegun :
        task < (s.apply (r.withStatus status) (some task)).nextTask := by
      simpa using hs.lt_nextTask hhears.following
    refine (hs.apply hhears.running _ (some task)).setRoutine hbegun ?_
    intro cursor' hcursor'
    have hfollows : s.cursor? task = some cursor :=
      cursor?_of_get? hhears.following
    have hid : seen.id = cursor.id :=
      (StatusSource.id_of_next_eq_changed hhears.sighted).1
    refine ⟨cursor, by simp [cursor?_apply, hfollows], ?_⟩
    cases hreceived : status.isReceived with
    | true => simp [hreceived] at hcursor'
    | false =>
      simp only [hreceived, Bool.false_eq_true, if_false, Routine.cursor?]
        at hcursor'
      cases hcursor'
      exact hid.symm
  | drop task saved cursor htask =>
    exact (hs.unfollow cursor.id).setRoutine_of_none (hs.lt_nextTask htask) rfl
  | leave task saved cursor htask =>
    exact hs.setRoutine_of_none (hs.lt_nextTask htask) rfl
  | hear task saved position heard id htask =>
    have hbegun := Nat.lt_of_lt_of_le (hs.lt_nextTask htask)
      (leavesOwn_attachTracked s id).grows
    exact (hs.attachTracked id).setRoutine_of_none hbegun rfl
  | rescan task saved position heard count htask =>
    have hbegun :=
      Nat.lt_of_lt_of_le (hs.lt_nextTask htask) (leavesOwn_attachKnown s).grows
    exact hs.attachKnown.setRoutine_of_none hbegun rfl
  | _ => exact hs.congr rfl rfl rfl rfl rfl rfl

theorem separate_run {start : Service} (hstart : start.Fresh)
    (events : List Event) :
    (start.run events).Separate :=
  run_induction hstart.separate fun _ _ _ _ htransition ht =>
    ht.transition htransition

end Redelivery.Service
