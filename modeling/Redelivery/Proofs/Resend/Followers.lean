import Redelivery.Proofs.Resend.Runs

/-!
# What an event does to the tasks

A task goes on undisturbed until its own turn comes, its message is delivered or
the service is shut down.  So a task that follows a message keeps its cursor
until it has applied what there is to see, and the cursor never loses the stream
that it follows.
-/

namespace Redelivery.Service

variable {s t : Service} {e : Event} {id : MessageId} {task : Nat}
  {routine : Routine}
  {cursor : StatusCursor}

/-! ## Tasks go on -/

theorem Coherent.tasks_foldl_launch (hs : s.Coherent)
    (htask : s.tasks.get? task = some routine) (routines : List Routine)
    (hothers : ∀ other ∈ routines, other.cursor? = none) :
    (routines.foldl Service.launch s).Coherent ∧
      (routines.foldl Service.launch s).tasks.get? task = some routine := by
  induction routines generalizing s with
  | nil => exact ⟨hs, htask⟩
  | cons first rest ih =>
    have hfirst := hs.launch (hothers first (by simp))
    have hkept : (s.launch first).tasks.get? task = some routine :=
      hs.tasks_spawn_of_get? first htask
    exact ih hfirst hkept fun other hother => hothers other (by simp [hother])

theorem cursor?_observers (s : Service) (other : Routine)
    (hother : other ∈ Routine.listen s.source.announced.size ::
      s.nodes.watch.map fun c => .observe { c with seen := none }) :
    other.cursor? = none := by
  rcases List.mem_cons.1 hother with rfl | hobserver
  · rfl
  · obtain ⟨cursor, _, rfl⟩ := List.mem_map.1 hobserver
    rfl

theorem Coherent.tasks_begun (hs : s.Coherent)
    (htask : s.tasks.get? task = some routine) :
    s.begun.tasks.get? task = some routine := by
  have hstarted : ({ s with started := true } : Service).Coherent :=
    hs.congr rfl rfl rfl rfl rfl rfl rfl
  have hattached := hstarted.attachKnown
  have hkept := hstarted.tasks_attachKnown htask
  exact (hattached.tasks_foldl_launch hkept _ s.cursor?_observers).2

theorem tasks_setRoutine_of_ne {task' : Nat} (hother : task ≠ task')
    (s : Service) (routine : Routine) :
    (s.setRoutine task' routine).tasks.get? task = s.tasks.get? task := by
  rw [tasks_setRoutine, if_neg hother]

/-- A task goes on as it was, unless it is its turn, its message is delivered or
the service is shut down. -/
theorem Transition.tasks_of_get? (htransition : Transition s e t)
    (hs : s.Coherent) (htask : s.tasks.get? task = some routine) :
    t.tasks.get? task = some routine ∨ t.shutDown = true ∨
    (∃ saved, e = .resume task saved) ∨
      ∃ r, s.Applies e r ∧ r.status.isReceived = true ∧
        s.subscriptions.get? r.id = some task := by
  have hturn {u : Service} {task' : Nat} {saved : Bool} {left : Routine}
      (hkept : u.tasks.get? task = some routine) :
      (u.setRoutine task' left).tasks.get? task = some routine ∨
        (u.setRoutine task' left).shutDown = true ∨
        (∃ saved', Event.resume task' saved = .resume task saved') ∨
        ∃ r, s.Applies (.resume task' saved) r ∧ r.status.isReceived = true ∧
          s.subscriptions.get? r.id = some task := by
    by_cases hsame : task = task'
    · exact .inr (.inr (.inl ⟨saved, by rw [hsame]⟩))
    · left
      rw [tasks_setRoutine_of_ne hsame, hkept]
  cases htransition with
  | start => exact .inl (hs.tasks_begun htask)
  | shutdown hrunning => exact .inr (.inl (by rw [shutdown_eq hrunning]))
  | refuse => exact .inl (hs.tasks_spawn_of_get? _ htask)
  | sweep => exact .inl (hs.tasks_spawn_of_get? _ htask)
  | retire r hrunning hreceived =>
    have hspawned := hs.tasks_spawn_of_get? (.save (.answer 0)) htask
    by_cases hfollower : s.subscriptions.get? r.id = some task
    · exact .inr (.inr (.inr ⟨r, .register r hrunning, hreceived, hfollower⟩))
    · left
      rw [tasks_apply, hspawned]
      simp [hfollower]
  | enroll r hrunning howed =>
    have hspawned : (s.spawn (.save (.answer 0))).Coherent := hs.spawn rfl
    have happlied := hspawned.apply_of_owed hrunning howed none
    have hkept := hs.tasks_spawn_of_get? (.save (.answer 0)) htask
    left
    apply happlied.tasks_attach
    rw [tasks_apply, hkept, howed]
    simp
  | resend id r claimed _ hclaim =>
    have hclaimed := hs.claim hclaim
    obtain ⟨_, _, _, _, rfl⟩ := claim_eq_some_iff.1 hclaim
    exact .inl (hclaimed.tasks_spawn_of_get? _ htask)
  | fire generation sleeper r claimed _ _ _ hcurrent hclaim =>
    have hclaimed := (hs.woken hcurrent).claim hclaim
    obtain ⟨_, _, _, _, rfl⟩ := claim_eq_some_iff.1 hclaim
    exact .inl (hclaimed.tasks_spawn_of_get? _ htask)
  | chore task' saved old left u _ _ hchore =>
    apply hturn
    cases hchore <;> exact htask
  | catchUp task' saved id rest resent watching r claimed _ _ hclaim =>
    obtain ⟨_, _, _, _, rfl⟩ := claim_eq_some_iff.1 hclaim
    exact hturn htask
  | restate task' saved cursor seen status r hhears =>
    by_cases hsame : task = task'
    · exact .inr (.inr (.inl ⟨saved, by rw [hsame]⟩))
    · by_cases hfollower : status.isReceived = true ∧
        s.subscriptions.get? r.id = some task
      · exact .inr (.inr (.inr ⟨r.withStatus status,
          .follow task' saved cursor seen status r hhears, hfollower.1,
          hfollower.2⟩))
      · left
        rw [tasks_setRoutine_of_ne hsame, tasks_apply, if_neg, htask]
        rintro ⟨hreceived, hfollows, _⟩
        exact hfollower ⟨hreceived, hfollows⟩
  | drop => exact hturn htask
  | leave => exact hturn htask
  | hear task' saved position heard id =>
    exact hturn (hs.tasks_attachTracked id htask)
  | rescan => exact hturn (hs.tasks_attachKnown htask)
  | _ => exact .inl htask

/-! ## A task keeps its cursor -/

/-- A task that follows a message keeps its cursor, unless the service is shut
down, a record is applied to the message, or the task drops it for want of a
stream or of a record. -/
theorem Transition.cursor?_of_get? (htransition : Transition s e t)
    (hs : s.Coherent) (hcursor : s.cursor? task = some cursor) :
    t.cursor? task = some cursor ∨ t.shutDown = true ∨
    (∃ r, s.Applies e r ∧ r.id = cursor.id) ∨
      s.source.next cursor = (.closed, cursor) ∨
      s.record? cursor.id = none := by
  obtain ⟨routine, htask, hfollows⟩ := cursor?_eq_some.1 hcursor
  have hkept {u : Service} (hu : u.tasks.get? task = some routine) :
      u.cursor? task = some cursor := by
    rw [Service.cursor?_of_get? hu, hfollows]
  have hturn (saved : Bool) (he : e = .resume task saved) :
      t.cursor? task = some cursor ∨ t.shutDown = true ∨
      (∃ r, s.Applies e r ∧ r.id = cursor.id) ∨
        s.source.next cursor = (.closed, cursor) ∨
        s.record? cursor.id = none := by
    subst he
    have hown {old : Routine} (hold : s.tasks.get? task = some old) :
        old = routine :=
      Option.some.inj (hold.symm.trans htask)
    cases htransition with
    | idle => exact .inl hcursor
    | refuse => exact .inl (hkept (hs.tasks_spawn_of_get? _ htask))
    | chore _ _ old left u hold _ hchore =>
      left
      rw [cursor?_setRoutine, if_pos rfl, ← hfollows, ← hown hold]
      cases hchore <;> simp
    | catchUp _ _ _ _ _ _ _ _ hold =>
      rw [← hown hold] at hfollows
      cases hfollows
    | restate _ _ cursor' seen status r hhears =>
      rw [← hown hhears.following] at hfollows
      cases hfollows
      have hid : r.id = cursor.id := hhears.id_eq hs.ledger.keyed
      exact .inr (.inr
        (.inl ⟨_, .follow task saved cursor seen status r hhears, hid⟩))
    | drop _ _ cursor' hold _ hover =>
      rw [← hown hold] at hfollows
      cases hfollows
      exact .inr (.inr (.inr hover))
    | leave _ _ cursor' hold hstale =>
      rw [← hown hold] at hfollows
      cases hfollows
      have hcurrent := hs.follows hcursor
      rcases hstale with hshut | hother
      · rw [(hs.ended hshut cursor.id).2] at hcurrent
        cases hcurrent
      · exact absurd hcurrent hother
    | hear _ _ _ _ _ hold =>
      rw [← hown hold] at hfollows
      cases hfollows
    | rescan _ _ _ _ _ hold =>
      rw [← hown hold] at hfollows
      cases hfollows
  rcases htransition.tasks_of_get? hs htask with
    hsame | hshut | ⟨saved, he⟩ | ⟨r, happlies, _, hr⟩
  · exact .inl (hkept hsame)
  · exact .inr (.inl hshut)
  · exact hturn saved he
  · have hid := hs.id_of_follower hr hcursor
    exact .inr (.inr (.inl ⟨r, happlies, hid.symm⟩))

/-- Only one task follows a message, so it is the one that hears of it. -/
theorem Coherent.eq_of_hears (hs : s.Coherent)
    (hcursor : s.cursor? task = some cursor) {task' : Nat}
    {cursor' seen : StatusCursor} {status : DeliveryStatus} {r : Record}
    (hhears : s.Hears task' cursor' seen status r) (hid : r.id = cursor.id) :
    cursor' = cursor := by
  have hid' : r.id = cursor'.id := hhears.id_eq hs.ledger.keyed
  have hfollower := hs.follows hcursor
  rw [← hid, hid', hhears.current] at hfollower
  cases hfollower
  have hcursor' : s.cursor? task = some cursor' :=
    Service.cursor?_of_get? hhears.following
  rw [hcursor] at hcursor'
  cases hcursor'
  rfl

/-! ## Where cursors come from -/

/-- Every cursor is one that was there, or that of a new task at the beginning
of a stream. -/
structure Inherits (s t : Service) : Prop where
  source : t.source = s.source
  grows : s.nextTask ≤ t.nextTask
  origin : ∀ task cursor, t.cursor? task = some cursor →
    s.cursor? task = some cursor ∨ (s.source.Begins cursor ∧ s.nextTask ≤ task)

theorem Inherits.of_same (hsource : t.source = s.source)
    (hnext : t.nextTask = s.nextTask) (htasks : t.tasks = s.tasks) :
    s.Inherits t := by
  refine ⟨hsource, Nat.le_of_eq hnext.symm, fun task cursor hcursor => ?_⟩
  left
  rwa [cursor?, htasks] at hcursor

theorem inherits_refl (s : Service) : s.Inherits s :=
  .of_same rfl rfl rfl

theorem Inherits.trans {u : Service} (hst : s.Inherits t) (htu : t.Inherits u) :
    s.Inherits u := by
  refine ⟨htu.source.trans hst.source, Nat.le_trans hst.grows htu.grows, ?_⟩
  intro task cursor hcursor
  rcases htu.origin task cursor hcursor with hbefore | ⟨hbegins, hnew⟩
  · exact hst.origin task cursor hbefore
  · rw [hst.source] at hbegins
    exact .inr ⟨hbegins, Nat.le_trans hst.grows hnew⟩

theorem inherits_spawn (s : Service) (hnone : routine.cursor? = none) :
    s.Inherits (s.spawn routine) := by
  exact ⟨by simp, by simp,
    fun task cursor hcursor => .inl (cursor?_of_spawn hnone hcursor)⟩

theorem inherits_apply (s : Service) (r : Record) (origin : Option Nat) :
    s.Inherits (s.apply r origin) := by
  exact ⟨by simp, by simp,
    fun task cursor hcursor => .inl (cursor?_of_apply hcursor)⟩

theorem inherits_claim {bound : ResendBound} {sweeping : Bool} {r : Record}
    (hclaim : s.claim id bound sweeping = some (r, t)) : s.Inherits t := by
  obtain ⟨_, _, _, _, rfl⟩ := claim_eq_some_iff.1 hclaim
  exact .of_same rfl rfl rfl

theorem inherits_attach (s : Service) (id : MessageId) :
    s.Inherits (s.attach id) := by
  rcases attach_cases s id with ⟨hsame, _⟩ | ⟨stream, _, _, hcurrent, hattach⟩
  · rw [hsame]
    exact s.inherits_refl
  rw [hattach]
  refine ⟨by simp, by simp, fun task cursor hcursor => ?_⟩
  change (s.spawn (.follow (s.firstCursor id stream))).cursor? task =
    some cursor at hcursor
  rw [cursor?_spawn] at hcursor
  split at hcursor
  next hnew =>
    cases hcursor
    refine .inr ⟨⟨stream, hcurrent, rfl, ?_⟩, Nat.le_of_eq hnew.symm⟩
    unfold firstCursor
    dsimp only
    split
    next => exact .inr rfl
    next => exact .inl rfl
  next => exact .inl hcursor

theorem inherits_attachTracked (s : Service) (id : MessageId) :
    s.Inherits (s.attachTracked id) := by
  refine attachTracked_elim s.inherits_refl ?_
  intro _
  exact s.inherits_attach id

theorem inherits_attachKnown (s : Service) : s.Inherits s.attachKnown := by
  refine attachKnown_induction s.inherits_refl ?_
  intro t id ht
  exact ht.trans (t.inherits_attachTracked id)

theorem inherits_begun (s : Service) : s.Inherits s.begun := by
  refine List.foldlRecOn (motive := fun t => s.Inherits t) _ launch ?_ ?_
  · have hstarted : s.Inherits { s with started := true } :=
      .of_same rfl rfl rfl
    exact hstarted.trans (inherits_attachKnown _)
  · intro t ht routine hroutine
    have hspawned :=
      ht.trans (t.inherits_spawn (s.cursor?_observers routine hroutine))
    exact hspawned.trans (.of_same rfl rfl rfl)

/-- A cursor is one that was there, has just sighted a status, or is that of a
new task at the beginning of a stream. -/
theorem Transition.cursor?_cases (htransition : Transition s e t)
    (hcursor : t.cursor? task = some cursor) :
    s.cursor? task = some cursor ∨
    (s.source.Begins cursor ∧ s.nextTask ≤ task) ∨
      ∃ old status, s.cursor? task = some old ∧
        s.source.next old = (.changed status, cursor) := by
  have horigin {u : Service} (h : s.Inherits u)
      (hu : u.cursor? task = some cursor) :
      s.cursor? task = some cursor ∨
      (s.source.Begins cursor ∧ s.nextTask ≤ task) ∨
        ∃ old status, s.cursor? task = some old ∧
          s.source.next old = (.changed status, cursor) := by
    rcases h.origin task cursor hu with hbefore | hbegins
    · exact .inl hbefore
    · exact .inr (.inl hbegins)
  cases htransition with
  | start => exact horigin s.inherits_begun hcursor
  | shutdown hrunning =>
    left
    rw [shutdown_eq hrunning] at hcursor
    simp only [cursor?, tasks_foldl_abort] at hcursor ⊢
    split at hcursor
    next => cases hcursor
    next => exact hcursor
  | refuse => exact horigin (s.inherits_spawn rfl) hcursor
  | sweep => exact horigin (s.inherits_spawn rfl) hcursor
  | retire r =>
    exact horigin
      ((s.inherits_spawn rfl).trans (inherits_apply _ r none)) hcursor
  | enroll r =>
    exact horigin
      (((s.inherits_spawn rfl).trans (inherits_apply _ r none)).trans
        (inherits_attach _ r.id)) hcursor
  | resend id r claimed _ hclaim =>
    exact horigin ((inherits_claim hclaim).trans (inherits_spawn _ rfl)) hcursor
  | fire generation sleeper r claimed _ _ _ _ hclaim =>
    have hwoken : s.Inherits (s.woken generation sleeper.id) :=
      .of_same rfl rfl rfl
    exact horigin
      ((hwoken.trans (inherits_claim hclaim)).trans (inherits_spawn _ rfl))
      hcursor
  | chore task' saved old left u htask _ hchore =>
    left
    rw [cursor?_setRoutine] at hcursor
    split at hcursor
    next hsame =>
      rw [hsame, Service.cursor?_of_get? htask, ← hcursor]
      cases hchore <;> simp
    next => cases hchore <;> exact hcursor
  | catchUp task' saved id rest resent watching r claimed _ _ hclaim =>
    rw [cursor?_setRoutine] at hcursor
    split at hcursor
    next => cases hcursor
    next => exact horigin (inherits_claim hclaim) hcursor
  | restate task' saved old seen status r hhears =>
    rw [cursor?_setRoutine] at hcursor
    split at hcursor
    next hsame =>
      split at hcursor
      next => cases hcursor
      next =>
        cases hcursor
        have hold : s.cursor? task = some old := by
          rw [hsame, Service.cursor?_of_get? hhears.following]
          rfl
        exact .inr (.inr ⟨old, status, hold, hhears.sighted⟩)
    next =>
      exact horigin
        (s.inherits_apply (r.withStatus status) (some task')) hcursor
  | drop | leave =>
    left
    rw [cursor?_setRoutine] at hcursor
    split at hcursor
    next => cases hcursor
    next => exact hcursor
  | hear task' saved position heard id =>
    rw [cursor?_setRoutine] at hcursor
    split at hcursor
    next => cases hcursor
    next => exact horigin (s.inherits_attachTracked id) hcursor
  | rescan task' =>
    rw [cursor?_setRoutine] at hcursor
    split at hcursor
    next => cases hcursor
    next => exact horigin s.inherits_attachKnown hcursor
  | _ => exact .inl hcursor

structure Attentive (s : Service) : Prop where
  source : s.source.Sound
  tracking : ∀ task cursor, s.cursor? task = some cursor →
    s.source.Tracks cursor

theorem Fresh.attentive (hs : s.Fresh) : s.Attentive where
  source := hs.source.sound
  tracking := by
    intro task cursor hcursor
    simp [cursor?, hs.tasks] at hcursor

theorem Attentive.transition (htransition : Transition s e t)
    (hs : s.Attentive) :
    t.Attentive := by
  have htracks : ∀ task cursor, t.cursor? task = some cursor →
      s.source.Tracks cursor := by
    intro task cursor hcursor
    rcases htransition.cursor?_cases hcursor with
      hbefore | ⟨hbegins, _⟩ | ⟨old, status, _, hnext⟩
    · exact hs.tracking task cursor hbefore
    · exact hbegins.tracks
    · exact StatusSource.tracks_of_next hnext
  rcases htransition.frames.source with hsame | ⟨id, status, _, hset⟩ |
    ⟨id, _, hremove⟩
  · rw [← hsame] at htracks
    exact ⟨hsame ▸ hs.source, htracks⟩
  · refine ⟨hset ▸ hs.source.set id status, fun task cursor hcursor => ?_⟩
    rw [hset]
    exact (htracks task cursor hcursor).set hs.source id status
  · refine ⟨hremove ▸ hs.source.remove id, fun task cursor hcursor => ?_⟩
    rw [hremove]
    exact (htracks task cursor hcursor).remove hs.source id

theorem Attentive.run (hs : s.Attentive) (events : List Event) :
    (s.run events).Attentive :=
  run_induction hs fun _ _ _ _ htransition ht => ht.transition htransition

theorem Reachable.attentive (hs : s.Reachable) : s.Attentive := by
  obtain ⟨start, events, hstart, _, rfl⟩ := hs
  exact hstart.attentive.run events

/-! ## Rest -/

/-- No task has anything to do. -/
def idle (s : Service) : Bool :=
  !s.tasks.values.any s.isReady

theorem idle_of_atRest (hrest : s.atRest = true) : s.idle = true :=
  (Bool.and_eq_true_iff.1 hrest).2

theorem isReady_of_idle (hidle : s.idle = true)
    (htask : s.tasks.get? task = some routine) :
    s.isReady routine = false := by
  simp only [idle, Bool.not_eq_true', List.any_eq_false] at hidle
  exact Bool.eq_false_iff.2
    (hidle routine ((Table.mem_values_iff _ _).2 ⟨task, htask⟩))

theorem isWriting_of_idle (hidle : s.idle = true) : s.isWriting = false := by
  apply Bool.eq_false_iff.2
  intro hwriting
  obtain ⟨routine, hmem, hwrites⟩ := List.any_eq_true.1 hwriting
  obtain ⟨writer, hwriter⟩ := (Table.mem_values_iff _ _).1 hmem
  have hready := isReady_of_idle hidle hwriter
  cases routine with
  | write => cases hready
  | _ => cases hwrites

/-- When no task has anything to do, one that follows a message waits on its
open stream and has seen all that there is. -/
theorem follow_of_idle (hidle : s.idle = true)
    (hcursor : s.cursor? task = some cursor) :
    s.tasks.get? task = some (.follow cursor) ∧ s.source.unseen? cursor = none ∧
      (s.source.open? cursor).isSome = true := by
  obtain ⟨routine, htask, hfollows⟩ := cursor?_eq_some.1 hcursor
  have hready := isReady_of_idle hidle htask
  cases routine with
  | save => simp [isReady, isWriting_of_idle hidle] at hready
  | write => cases hready
  | send => cases hready
  | follow other =>
    cases hfollows
    simp only [isReady, Bool.or_eq_false_iff] at hready
    exact ⟨htask, by simpa using hready.1, by simpa using hready.2⟩
  | _ => cases hfollows

theorem isReady_of_atRest (hrest : s.atRest = true)
    (htask : s.tasks.get? task = some routine) :
    s.isReady routine = false :=
  isReady_of_idle (idle_of_atRest hrest) htask

theorem isWriting_of_atRest (hrest : s.atRest = true) : s.isWriting = false :=
  isWriting_of_idle (idle_of_atRest hrest)

theorem follow_of_atRest (hrest : s.atRest = true)
    (hcursor : s.cursor? task = some cursor) :
    s.tasks.get? task = some (.follow cursor) ∧ s.source.unseen? cursor = none ∧
      (s.source.open? cursor).isSome = true :=
  follow_of_idle (idle_of_atRest hrest) hcursor

end Redelivery.Service
