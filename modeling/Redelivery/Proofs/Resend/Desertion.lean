import Redelivery.Proofs.Resend.Attendance

/-!
# Where messages lose their streams

A service that never forsakes a message follows, whenever it has nothing left to
do, every message with a live record that the source holds.  A message that is
forsaken is not found again by the service itself: when all tasks have come to
rest, nobody follows it.
-/

namespace Redelivery

/-- Whether an event comes from the service itself: a timer's time comes, or a
task goes on. -/
def Event.isInternal : Event → Bool
  | .wake _ | .resume .. => true
  | _ => false

namespace Service

variable {s t : Service} {e : Event} {id : MessageId} {task position : Nat}

/-! ## Only the service goes on -/

theorem Transition.source_of_internal (htransition : Transition s e t)
    (hinternal : e.isInternal = true) : t.source = s.source := by
  rcases htransition.frames.source with hsame | ⟨id, status, rfl, _⟩ |
    ⟨id, rfl, _⟩
  · exact hsame
  · cases hinternal
  · cases hinternal

/-- The listeners are those that were there, or have heard of what came next. -/
theorem Transition.position?_cases (htransition : Transition s e t)
    (hinternal : e.isInternal = true)
    (hposition : t.position? task = some position) :
    s.position? task = some position ∨
    ∃ before, s.position? task = some before ∧
      ((∃ id, s.source.hear before = (.announced id, position)) ∨
        ∃ count, s.source.hear before = (.missed count, position)) := by
  have hkept (h : s.KeepsListeners t) : s.position? task = some position ∨
      ∃ before, s.position? task = some before ∧
        ((∃ id, s.source.hear before = (.announced id, position)) ∨
          ∃ count, s.source.hear before = (.missed count, position)) :=
    .inl (h task position hposition)
  cases htransition with
  | idle | lapse | exhaust => exact .inl hposition
  | refuse => exact hkept (s.keepsListeners_spawn rfl)
  | fire generation sleeper r claimed _ _ _ _ hclaim =>
    have hclaimed : s.KeepsListeners claimed := by
      have hwoken := keepsListeners_claim hclaim
      exact fun task position hlistens => hwoken task position hlistens
    exact hkept (hclaimed.trans (claimed.keepsListeners_spawn rfl))
  | chore task' saved old left u htask _ hchore =>
    left
    rw [position?_setRoutine] at hposition
    split at hposition
    next hsame =>
      rw [hsame, Service.position?_of_get? htask, ← hposition]
      cases hchore <;> simp
    next => cases hchore <;> exact hposition
  | catchUp task' saved id rest resent watching r claimed _ _ hclaim =>
    have hclaimed := keepsListeners_claim hclaim
    exact hkept (hclaimed.trans (claimed.keepsListeners_setRoutine task' rfl))
  | restate task' saved cursor seen status r =>
    refine hkept ((s.keepsListeners_apply _ (some task')).trans
      (keepsListeners_setRoutine _ task' ?_))
    split <;> rfl
  | drop task' saved cursor =>
    exact hkept (keepsListeners_setRoutine { s with
      subscriptions := s.subscriptions.erase cursor.id } task' rfl)
  | leave task' => exact hkept (s.keepsListeners_setRoutine task' rfl)
  | hear task' saved before heard id htask hheard =>
    rw [position?_setRoutine] at hposition
    split at hposition
    next hsame =>
      cases hposition
      have hbefore : s.position? task = some before := by
        rw [hsame, Service.position?_of_get? htask]
        rfl
      exact .inr ⟨before, hbefore, .inl ⟨id, hheard⟩⟩
    next =>
      exact .inl (s.keepsListeners_attachTracked id task position hposition)
  | rescan task' saved before heard count htask hmissed =>
    rw [position?_setRoutine] at hposition
    split at hposition
    next hsame =>
      cases hposition
      have hbefore : s.position? task = some before := by
        rw [hsame, Service.position?_of_get? htask]
        rfl
      exact .inr ⟨before, hbefore, .inr ⟨count, hmissed⟩⟩
    next => exact .inl (s.keepsListeners_attachKnown task position hposition)
  | _ => cases hinternal

/-- Nothing that the service does by itself lets it listen for a message
again. -/
theorem Transition.not_awaited (htransition : Transition s e t)
    (hinternal : e.isInternal = true) (hunawaited : ¬ s.Awaited id) :
    ¬ t.Awaited id := by
  rintro ⟨task, position, hposition, hannounces⟩
  apply hunawaited
  rw [htransition.source_of_internal hinternal] at hannounces
  rcases htransition.position?_cases hinternal hposition with
    hbefore | ⟨before, hbefore, ⟨id', hheard⟩ | ⟨count, hmissed⟩⟩
  · exact ⟨task, position, hbefore, hannounces⟩
  · exact ⟨task, before, hbefore,
      (StatusSource.announces_of_hear hheard).2 (.inr hannounces)⟩
  · exact ⟨task, before, hbefore,
      .inl (StatusSource.hear_eq_missed_iff.1 hmissed).1⟩

/-- The service does not begin by itself to follow a message that nobody is to
hear of. -/
theorem Transition.subscriptions_of_not_awaited (htransition : Transition s e t)
    (hinternal : e.isInternal = true) (hunawaited : ¬ s.Awaited id) :
    t.subscriptions.get? id = s.subscriptions.get? id ∨
    t.subscriptions.get? id = none := by
  cases htransition with
  | idle | lapse | exhaust | refuse => exact .inl rfl
  | fire generation sleeper r claimed _ _ _ _ hclaim =>
    obtain ⟨_, _, _, _, rfl⟩ := claim_eq_some_iff.1 hclaim
    exact .inl rfl
  | chore task' saved old left u _ _ hchore =>
    left
    cases hchore <;> simp
  | catchUp task' saved id' rest resent watching r claimed _ _ hclaim =>
    obtain ⟨_, _, _, _, rfl⟩ := claim_eq_some_iff.1 hclaim
    left
    simp
  | restate task' saved cursor seen status r =>
    simp only [setRoutine_frame, subscriptions_apply]
    split
    next =>
      rw [Table.get?_erase]
      split
      next => exact .inr rfl
      next => exact .inl rfl
    next => exact .inl rfl
  | drop task' saved cursor =>
    simp only [setRoutine_frame, Table.get?_erase]
    split
    next => exact .inr rfl
    next => exact .inl rfl
  | leave => left; simp
  | hear task' saved before heard id' htask hheard =>
    have hother : id ≠ id' := by
      rintro rfl
      have hbefore : s.position? task' = some before :=
        Service.position?_of_get? htask
      exact hunawaited ⟨task', before, hbefore,
        (StatusSource.announces_of_hear hheard).2 (.inl rfl)⟩
    left
    simp only [setRoutine_frame, attachTracked]
    split
    next => exact subscriptions_attach_of_ne hother
    next => rfl
  | rescan task' saved before heard count htask hmissed =>
    have hbefore : s.position? task' = some before :=
      Service.position?_of_get? htask
    have hlate := (StatusSource.hear_eq_missed_iff.1 hmissed).1
    exact absurd ⟨task', before, hbefore, .inl hlate⟩ hunawaited
  | _ => cases hinternal

/-! ## Nobody finds the message again -/

/-- The source holds a message that nobody is to hear of, and whoever follows it
does so on a stream that has ended. -/
structure Deserted (s : Service) (id : MessageId) : Prop where
  held : (s.source.current.get? id).isSome = true
  unawaited : ¬ s.Awaited id
  stale : ∀ task cursor, s.subscriptions.get? id = some task →
    s.cursor? task = some cursor →
    s.source.open? cursor = none

theorem Forsaken.deserted (hs : s.Forsaken id) : s.Deserted id := by
  obtain ⟨task, cursor, hfollower, hcursor, hopen⟩ := hs.stale
  refine ⟨hs.held, hs.unawaited, fun task' cursor' hfollower' hcursor' => ?_⟩
  rw [hfollower] at hfollower'
  cases hfollower'
  rw [hcursor] at hcursor'
  cases hcursor'
  exact hopen

theorem Deserted.transition (hs : s.Deserted id) (hcoherent : s.Coherent)
    (hinternal : e.isInternal = true) (htransition : Transition s e t) :
    t.Deserted id := by
  have hsource := htransition.source_of_internal hinternal
  refine ⟨?_, htransition.not_awaited hinternal hs.unawaited, ?_⟩
  · rw [hsource]
    exact hs.held
  · intro task cursor hfollower hcursor
    rw [hsource]
    have hbefore : s.subscriptions.get? id = some task := by
      rcases htransition.subscriptions_of_not_awaited hinternal hs.unawaited
        with hsame | hgone
      · rw [← hsame, hfollower]
      · rw [hgone] at hfollower
        cases hfollower
    rcases htransition.cursor?_cases hcursor with hsame | ⟨_, hnew⟩ |
      ⟨old, status, hold, hnext⟩
    · exact hs.stale task cursor hbefore hsame
    · obtain ⟨cursor', hcursor', _⟩ := (hcoherent.followed id task).1 hbefore
      obtain ⟨routine, htask, _⟩ := cursor?_eq_some.1 hcursor'
      rw [hcoherent.numbered task hnew] at htask
      cases htask
    · rw [StatusSource.open?_of_next_eq_changed hnext]
      exact hs.stale task old hbefore hold

theorem Deserted.run (hs : s.Deserted id) (hreachable : s.Reachable)
    {later : List Event} (hinternal : ∀ e ∈ later, e.isInternal = true) :
    (s.run later).Deserted id := by
  have hboth : (s.run later).Coherent ∧ (s.run later).Deserted id := by
    refine run_induction (P := fun t => t.Coherent ∧ t.Deserted id)
      ⟨hreachable.coherent, hs⟩ ?_
    rintro t u e he htransition ⟨hcoherent, ht⟩
    exact ⟨hcoherent.transition htransition,
      ht.transition hcoherent (hinternal e he) htransition⟩
  exact hboth.2

/-- When all tasks have come to rest, nobody follows the message. -/
theorem Deserted.unfollowed (hs : s.Deserted id) (hcoherent : s.Coherent)
    (hidle : s.idle = true) : s.subscriptions.get? id = none := by
  cases hfollower : s.subscriptions.get? id with
  | none => rfl
  | some task =>
    obtain ⟨cursor, hcursor, _⟩ := (hcoherent.followed id task).1 hfollower
    have hopen := (follow_of_idle hidle hcursor).2.2
    rw [hs.stale task cursor hfollower hcursor] at hopen
    cases hopen

/-! ## Sources that forget no message -/

/-- Every task that follows a message does so on an open stream. -/
def FollowsOpen (s : Service) : Prop :=
  ∀ task cursor, s.cursor? task = some cursor →
    (s.source.open? cursor).isSome = true

theorem FollowsOpen.not_forsaken (hs : s.FollowsOpen) : ¬ s.Forsaken id := by
  intro hforsaken
  obtain ⟨task, cursor, _, hcursor, hended⟩ := hforsaken.stale
  have hopen := hs task cursor hcursor
  rw [hended] at hopen
  cases hopen

theorem FollowsOpen.transition (hs : s.FollowsOpen) (hattentive : s.Attentive)
    (hkept : ∀ id, e ≠ .forget id) (htransition : Transition s e t) :
    t.FollowsOpen := by
  have hbefore : ∀ task cursor, t.cursor? task = some cursor →
      (s.source.open? cursor).isSome = true := by
    intro task cursor hcursor
    rcases htransition.cursor?_cases hcursor with
      hsame | ⟨⟨stream, hcurrent, hnumber, _⟩, _⟩ | ⟨old, status, hold, hnext⟩
    · exact hs task cursor hsame
    · have hopen := StatusSource.open?_eq_some_iff.2 ⟨hcurrent, hnumber⟩
      rw [hopen]
      rfl
    · rw [StatusSource.open?_of_next_eq_changed hnext]
      exact hs task old hold
  intro task cursor hcursor
  have hopen := hbefore task cursor hcursor
  rcases htransition.frames.source with hsame | ⟨id, status, _, hset⟩ |
    ⟨id, hforget, _⟩
  · rwa [hsame]
  · obtain ⟨stream, hstream⟩ := Option.isSome_iff_exists.1 hopen
    have hold := StatusSource.lt_nextStream_of_stream? hattentive.source
      (StatusSource.stream?_of_open? hstream)
    rw [hset, StatusSource.open?_set hold]
    split
    next => rw [Option.isSome_map, hopen]
    next => exact hopen
  · exact absurd hforget (hkept id)

/-- A run in which the source forgets no message forsakes none. -/
theorem neverForsakes_of_kept (hstart : s.Fresh) {events : List Event}
    (hkept : ∀ id, .forget id ∉ events) : s.NeverForsakes events := by
  intro first rest hsplit id
  have hboth : (s.run first).Attentive ∧ (s.run first).FollowsOpen := by
    refine run_induction (P := fun t => t.Attentive ∧ t.FollowsOpen)
      ⟨hstart.attentive, ?_⟩ ?_
    · intro task cursor hcursor
      simp [cursor?, hstart.tasks] at hcursor
    · rintro t u e he htransition ⟨hattentive, ht⟩
      refine ⟨hattentive.transition htransition,
        ht.transition hattentive ?_ htransition⟩
      rintro id rfl
      apply hkept id
      rw [hsplit]
      exact List.mem_append_left _ he
  exact hboth.2.not_forsaken

/-! ## Where the law holds -/

/-- Whether nothing is left to do for a running service, but nobody follows a
message with a live record that the source holds. -/
def losesStream (s : Service) (id : MessageId) : Bool :=
  s.started && !s.shutDown && s.atRest && (s.source.status? id).isSome &&
    (s.record? id).isSome && !s.isSubscribed id

end Service

end Redelivery
