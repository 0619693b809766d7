import Redelivery.Proofs.Resend.Coherence

/-!
# Every change keeps the parts in step

A message is followed only while it has a record, an attempt is counted only for
one that has one, and whoever stops to follow a message gives up its
subscription as well.  So no event breaks `Coherent`, whatever the tasks have
done before.
-/

namespace Redelivery.Service

variable {s t : Service} {id : MessageId} {r : Record} {task : Nat}
  {routine : Routine}

/-! ## Following, claiming, forgetting -/

theorem Coherent.attach (hs : s.Coherent)
    (hcontains : s.ledger.contains id = true) :
    (s.attach id).Coherent := by
  rcases attach_cases s id with ⟨hsame, _⟩ |
    ⟨stream, hrunning, hfree, _, hattach⟩
  · rw [hsame]
    exact hs
  rw [hattach]
  have hunused : s.cursor? s.nextTask = none := by
    simp [cursor?, hs.numbered s.nextTask (Nat.le_refl _)]
  refine ⟨hs.ledger, hs.timers, hs.matched, ?_, ?_, ?_, ?_⟩
  · intro id' task hfollower
    simp only [Table.get?_insert] at hfollower
    split at hfollower
    next same => rwa [same]
    next => exact hs.tracked id' task hfollower
  · intro id' task
    change (s.subscriptions.insert id s.nextTask).get? id' = some task ↔
      ∃ cursor, (s.spawn (.follow (s.firstCursor id stream))).cursor? task =
        some cursor ∧
        cursor.id = id'
    rw [Table.get?_insert, cursor?_spawn]
    have hbefore := hs.followed id' task
    by_cases hnew : task = s.nextTask
    · subst hnew
      rw [hunused] at hbefore
      by_cases hsame : id' = id
      · simp [hsame]
      · have hother : id ≠ id' := fun e => hsame e.symm
        simpa [hsame, hother] using hbefore
    · rw [if_neg hnew]
      by_cases hsame : id' = id
      · subst hsame
        rw [hfree] at hbefore
        have hnew' : s.nextTask ≠ task := fun e => hnew e.symm
        simpa [hnew'] using hbefore
      · rw [if_neg hsame]
        exact hbefore
  · intro task hlarge
    have hlarge : s.nextTask + 1 ≤ task := hlarge
    change (s.spawn (.follow (s.firstCursor id stream))).tasks.get? task = none
    rw [tasks_spawn, if_neg (by omega)]
    exact hs.numbered task (by omega)
  · intro hshut
    rw [show s.shutDown = true from hshut] at hrunning
    cases hrunning

theorem Coherent.attachTracked (hs : s.Coherent) (id : MessageId) :
    (s.attachTracked id).Coherent := by
  refine attachTracked_elim hs ?_
  intro hlive
  exact hs.attach (Ledger.contains_of_find? hlive)

theorem Coherent.attachKnown (hs : s.Coherent) : s.attachKnown.Coherent :=
  attachKnown_induction hs fun _ id ht => ht.attachTracked id

theorem Coherent.tasks_spawn_of_get? (hs : s.Coherent) (other : Routine)
    (htask : s.tasks.get? task = some routine) :
    (s.spawn other).tasks.get? task = some routine := by
  have hlt := hs.lt_nextTask htask
  rw [tasks_spawn, if_neg (by omega), htask]

/-- Tasks that there are go on as before when another one begins to follow a
message. -/
theorem Coherent.tasks_attach (hs : s.Coherent) (id : MessageId)
    (htask : s.tasks.get? task = some routine) :
    (s.attach id).tasks.get? task = some routine := by
  rcases attach_cases s id with ⟨hsame, _⟩ | ⟨stream, _, _, _, hattach⟩
  · rw [hsame, htask]
  · rw [hattach]
    exact hs.tasks_spawn_of_get? (.follow (s.firstCursor id stream)) htask

theorem Coherent.tasks_attachTracked (hs : s.Coherent) (id : MessageId)
    (htask : s.tasks.get? task = some routine) :
    (s.attachTracked id).tasks.get? task = some routine := by
  refine attachTracked_elim htask ?_
  intro _
  exact hs.tasks_attach id htask

theorem Coherent.tasks_attachKnown (hs : s.Coherent)
    (htask : s.tasks.get? task = some routine) :
    s.attachKnown.tasks.get? task = some routine := by
  have hboth : s.attachKnown.Coherent ∧
      s.attachKnown.tasks.get? task = some routine := by
    refine attachKnown_induction ⟨hs, htask⟩ ?_
    rintro t id ⟨ht, htask⟩
    exact ⟨ht.attachTracked id, ht.tasks_attachTracked id htask⟩
  exact hboth.2

theorem Coherent.claim (hs : s.Coherent) {bound : ResendBound} {sweeping : Bool}
    (hclaim : s.claim id bound sweeping = some (r, t)) : t.Coherent := by
  obtain ⟨hrecord, _, _, _, rfl⟩ := claim_eq_some_iff.1 hclaim
  have hcontains : s.ledger.contains id = true :=
    Ledger.contains_of_find? (Option.isSome_iff_exists.2 ⟨r, hrecord⟩)
  exact ⟨hs.ledger.setAttempts hcontains _, hs.timers, hs.matched, hs.tracked,
    hs.followed, hs.numbered, hs.ended⟩

theorem Coherent.woken (hs : s.Coherent) {generation : Nat}
    (hcurrent : s.scheduler.isCurrent id generation = true) :
    (s.woken generation id).Coherent where
  ledger := hs.ledger
  timers := by
    intro id' timer htimer
    simp only [Service.woken] at htimer
    rw [Scheduler.timers_complete_wake hcurrent] at htimer
    split at htimer
    next => cases htimer
    next => exact hs.timers id' timer htimer
  matched := hs.matched.complete_wake hcurrent
  tracked := hs.tracked
  followed := hs.followed
  numbered := hs.numbered
  ended := by
    intro hshut id'
    refine ⟨?_, (hs.ended hshut id').2⟩
    simp only [Service.woken]
    rw [Scheduler.timers_complete_wake hcurrent, (hs.ended hshut id').1]
    split <;> rfl

theorem Coherent.drop (hs : s.Coherent) {cursor : StatusCursor}
    (htask : s.tasks.get? task = some (.follow cursor))
    (hcurrent : s.subscriptions.get? cursor.id = some task) :
    ({ s with subscriptions := s.subscriptions.erase cursor.id }.setRoutine task
      .stop).Coherent := by
  have hlt := hs.lt_nextTask htask
  refine hs.unfollow cursor.id ?_ ?_ ?_ ?_ ?_ ?_ ?_ ?_
  · simpa using hs.ledger
  · simpa using hs.timers
  · simpa using hs.matched
  · intro id' _ hcontains
    simpa using hcontains
  · simp
  · intro task'
    rw [cursor?_setRoutine, hcurrent]
    by_cases hsame : task' = task
    · simp [hsame]
    · have hsame' : task ≠ task' := fun e => hsame e.symm
      simp only [hsame, hsame', Option.some.injEq, if_false]
      rfl
  · intro task' hlarge
    simp only [setRoutine_frame] at hlarge
    rw [tasks_setRoutine, if_neg (by omega)]
    exact hs.numbered task' hlarge
  · intro hshut
    simp only [setRoutine_frame] at hshut
    exact hs.ended hshut

/-! ## Beginning and end -/

theorem Coherent.launch (hs : s.Coherent) (hcursor : routine.cursor? = none) :
    (s.launch routine).Coherent :=
  (hs.spawn hcursor).congr rfl rfl rfl rfl rfl rfl rfl

theorem Coherent.begun (hs : s.Coherent) : s.begun.Coherent := by
  have hstarted : ({ s with started := true } : Service).Coherent :=
    hs.congr rfl rfl rfl rfl rfl rfl rfl
  apply List.foldlRecOn _ Service.launch hstarted.attachKnown
  intro t ht routine hroutine
  apply ht.launch
  rcases List.mem_cons.1 hroutine with rfl | hobserver
  · rfl
  · obtain ⟨cursor, _, rfl⟩ := List.mem_map.1 hobserver
    rfl

theorem Coherent.shutdown (hs : s.Coherent) (hrunning : s.shutDown = false) :
    s.shutdown.Coherent := by
  rw [shutdown_eq hrunning]
  refine ⟨hs.ledger, ?_, hs.matched.cancelAll, ?_, ?_, ?_, ?_⟩
  · intro id timer htimer
    simp at htimer
  · intro id task hfollower
    simp at hfollower
  · intro id task
    simp only [Table.get?_empty, reduceCtorEq, false_iff, not_exists, not_and,
      cursor?, tasks_foldl_abort]
    intro cursor hcursor _
    split at hcursor
    next => cases hcursor
    next hkept =>
      have hfollower := hs.follows hcursor
      apply hkept
      exact List.mem_append_right _
        ((Table.mem_values_iff _ _).2 ⟨_, hfollower⟩)
  · intro task hlarge
    rw [tasks_foldl_abort, hs.numbered task hlarge]
    split <;> rfl
  · intro _ id
    simp

/-! ## Every change keeps it -/

theorem Coherent.chore (hs : s.Coherent) {saved : Bool} {old left : Routine}
    (htask : s.tasks.get? task = some old) (hchore : Chore s saved old t left) :
    (t.setRoutine task left).Coherent := by
  cases hchore with
  | write copy next _ =>
    have ht : ({ s with kept := some copy, saves := s.saves + 1 } :
        Service).Coherent :=
      hs.congr rfl rfl rfl rfl rfl rfl rfl
    exact ht.setRoutine htask rfl
  | send r next =>
    have ht : ({ s with outbox := s.outbox ++ [⟨s.clock, r⟩] } :
        Service).Coherent :=
      hs.congr rfl rfl rfl rfl rfl rfl rfl
    exact ht.setRoutine htask rfl
  | finish resent watching => exact hs.setRoutine htask (by simp)
  | _ => exact hs.setRoutine htask rfl

/-- Every change leaves the parts of the service in step. -/
theorem Coherent.transition {e : Event} (htransition : Transition s e t)
    (hs : s.Coherent) :
    t.Coherent := by
  cases htransition with
  | idle => exact hs
  | report | forget | setNode | pass | setCalendar =>
    exact hs.congr rfl rfl rfl rfl rfl rfl rfl
  | start => exact hs.begun
  | shutdown hrunning => exact hs.shutdown hrunning
  | refuse => exact hs.spawn rfl
  | retire r hrunning hreceived =>
    have hspawned : (s.spawn (.save (.answer 0))).Coherent := hs.spawn rfl
    exact hspawned.apply_of_isReceived hrunning hreceived
  | enroll r hrunning howed =>
    have hspawned : (s.spawn (.save (.answer 0))).Coherent := hs.spawn rfl
    have happlied := hspawned.apply_of_owed hrunning howed none
    exact happlied.attach (by simp [ledger_apply, howed, Ledger.contains_eq])
  | resend id r claimed _ hclaim => exact (hs.claim hclaim).spawn rfl
  | sweep => exact hs.spawn rfl
  | lapse generation sleeper hsleeper hstale =>
    obtain ⟨delay, harmed⟩ := hs.matched.armed generation sleeper hsleeper
    rcases hstale with hshut | hstale
    · rw [(hs.ended hshut sleeper.id).1] at harmed
      cases harmed
    · rw [Scheduler.isCurrent_iff.2 ⟨delay, harmed⟩] at hstale
      cases hstale
  | exhaust generation sleeper _ _ _ hcurrent => exact hs.woken hcurrent
  | fire generation sleeper r claimed _ _ _ hcurrent hclaim =>
    exact ((hs.woken hcurrent).claim hclaim).spawn rfl
  | chore task saved old left t htask _ hchore => exact hs.chore htask hchore
  | catchUp task saved id rest resent watching r claimed htask _ hclaim =>
    have hclaimed := hs.claim hclaim
    obtain ⟨_, _, _, _, rfl⟩ := claim_eq_some_iff.1 hclaim
    exact hclaimed.setRoutine htask rfl
  | restate task saved cursor seen status r hhears =>
    have hid : r.id = cursor.id := hhears.id_eq hs.ledger.keyed
    by_cases hreceived : status.isReceived = true
    · rw [if_pos hreceived]
      exact hs.deliver hhears.following hhears.running hhears.current
        hid hreceived
    · rw [if_neg hreceived]
      have howed : (r.withStatus status).status.isReceived = false :=
        Bool.eq_false_iff.2 hreceived
      have happlied := hs.apply_of_owed hhears.running howed (some task)
      have hfollowing :
          (s.apply (r.withStatus status) (some task)).tasks.get? task =
          some (.follow cursor) := by
        rw [tasks_apply, howed, hhears.following]
        simp
      apply happlied.setRoutine hfollowing
      simp [(StatusSource.id_of_next_eq_changed hhears.sighted).1]
  | drop task saved cursor htask hcurrent => exact hs.drop htask hcurrent
  | leave task saved cursor htask hstale =>
    have hcurrent : s.subscriptions.get? cursor.id = some task :=
      hs.follows (by rw [cursor?_of_get? htask]; rfl)
    rcases hstale with hshut | hother
    · rw [(hs.ended hshut cursor.id).2] at hcurrent
      cases hcurrent
    · exact absurd hcurrent hother
  | hear task saved position heard id htask =>
    have hattached := hs.attachTracked id
    exact hattached.setRoutine (hs.tasks_attachTracked id htask) rfl
  | rescan task saved position heard count htask =>
    have hattached := hs.attachKnown
    exact hattached.setRoutine (hs.tasks_attachKnown htask) rfl

end Redelivery.Service
