import Redelivery.Proofs.Resend.Delivery
import Redelivery.Proofs.Resend.Listening

/-!
# A tracked message is followed

Every message with a live record that the source holds is followed on its
current stream, or its announcement is still to be heard.  One state breaks
this: a listener hears of a new stream while the task that followed the old one
has not left yet.  The message counts as followed then, and when the task leaves
nobody takes its place.
-/

namespace Redelivery.Service

variable {s t : Service} {e : Event} {id : MessageId} {r : Record}

/-- The source holds a message on a stream that nobody follows and nobody is to
hear of: the task that the subscription names is on one that has ended. -/
structure Forsaken (s : Service) (id : MessageId) : Prop where
  started : s.started = true
  held : (s.source.current.get? id).isSome = true
  unawaited : ¬ s.Awaited id
  stale : ∃ task cursor, s.subscriptions.get? id = some task ∧
    s.cursor? task = some cursor ∧ s.source.open? cursor = none

/-- While the service runs it listens, and a message that it neither follows nor
awaits has no live record. -/
structure Attended (s : Service) : Prop where
  listening : ∃ task position, s.position? task = some position ∧
    position ≤ s.source.announced.size
  untracked : ∀ id, (s.source.current.get? id).isSome = true → ¬ s.Awaited id →
    s.subscriptions.get? id = none → s.record? id = none

/-! ## What an event changes -/

theorem running_of_step (hrunning : (s.step e).shutDown = false) :
    s.shutDown = false := by
  rcases (transition_step s e).frames.shutDown with hsame | rfl
  · rw [← hsame, hrunning]
  · cases hshut : s.shutDown with
    | false => rfl
    | true =>
      have hended : s.step .shutdown = s := by simp [step, shutdown, hshut]
      rw [hended, hshut] at hrunning
      cases hrunning

theorem record?_step_of_quiet (hquiet : ∀ r, s.Applies e r → r.id ≠ id)
    (hclock : ∀ now, e = .setCalendar now → s.calendar ≤ now)
    (hnone : s.record? id = none) :
    (s.step e).record? id = none := by
  have htransition := transition_step s e
  refine Ledger.find?_eq_none_iff.2 fun r hr => ?_
  rw [htransition.get?_of_quiet hquiet] at hr
  have hexpired := Ledger.find?_eq_none_iff.1 hnone r hr
  rcases htransition.frames.calendar with hsame | hcalendar
  · rw [hsame]
    exact hexpired
  · exact Record.isExpired_mono (hclock _ hcalendar) hexpired

theorem Applies.source_eq (happlies : s.Applies e r) :
    (s.step e).source = s.source := by
  rcases (transition_step s e).frames.source with hsame | ⟨id, status, rfl, _⟩ |
    ⟨id, rfl, _⟩
  · exact hsame
  · cases happlies
  · cases happlies

/-- A message that a record is applied to and that is still owed is followed if
the source holds it. -/
theorem Applies.followed (happlies : s.Applies e r) (hkeyed : s.ledger.Keyed)
    (howed : r.status.isReceived = false)
    (hheld : (s.source.current.get? r.id).isSome = true) :
    ((s.step e).subscriptions.get? r.id).isSome = true := by
  cases happlies with
  | register r hrunning =>
    have hstep : s.step (.register r) =
        ((s.spawn (.save (.answer 0))).apply r none).attach r.id := by
      simp [step, Service.register, hrunning,
        DeliveryStatus.detach_classify, howed]
    rw [hstep]
    exact subscriptions_attach_of_current (by simpa using hrunning)
      (by simpa using hheld)
  | follow task saved cursor seen status r hhears =>
    have hid : r.id = cursor.id := hhears.id_eq hkeyed
    have hcurrent :
        s.subscriptions.get? (r.withStatus status).id = some task := by
      rw [← hhears.current, ← hid]
      rfl
    rw [step_of_hears hhears]
    simp only [setRoutine_frame, subscriptions_apply, howed, Bool.false_eq_true,
      if_false, hcurrent, Option.isSome_some]

/-- A listener that stands still is to hear of all that it was to hear of. -/
theorem announces_step {position : Nat}
    (hannounces : s.source.Announces position id) :
    (s.step e).source.Announces position id := by
  rcases (transition_step s e).frames.source with
    hsame | ⟨id', status, _, hset⟩ | ⟨id', _, hremove⟩
  · rwa [hsame]
  · rw [hset]
    exact hannounces.set id' status
  · rw [hremove]
    exact hannounces.remove id'

/-- A message that is awaited stays so, until it is heard of and followed. -/
theorem Awaited.step (hawaited : s.Awaited id) (hs : s.Coherent)
    (hheld : (s.source.current.get? id).isSome = true)
    (hrunning : (s.step e).shutDown = false)
    (hunfollowed : (s.step e).subscriptions.get? id = none) :
    (s.step e).Awaited id ∨ (s.step e).record? id = none := by
  have hbefore := running_of_step hrunning
  obtain ⟨task, position, hlistens, hannounces⟩ := hawaited
  rcases (transition_step s e).listens hs hlistens with
    hsame | hshut | ⟨id', heard, hhear, ht⟩ | ⟨count, heard, hmissed, ht⟩
  · exact .inl ⟨task, position, hsame, announces_step hannounces⟩
  · rw [hrunning] at hshut
    cases hshut
  · rw [ht] at hunfollowed ⊢
    rcases (StatusSource.announces_of_hear hhear).1 hannounces with rfl | hlater
    · right
      simp only [setRoutine_frame] at hunfollowed
      have hnone := record?_of_attachTracked hbefore hheld hunfollowed
      simpa [record?] using hnone
    · left
      refine ⟨task, heard, ?_, by simpa using hlater⟩
      rw [position?_setRoutine, if_pos rfl]
      rfl
  · right
    rw [ht] at hunfollowed ⊢
    simp only [setRoutine_frame] at hunfollowed
    have hnone := record?_of_attachKnown hbefore hheld hunfollowed
    simpa [record?] using hnone

/-- A message that the source comes to hold is awaited. -/
theorem Attended.held_step (hs : s.Attended)
    (hheld : ((s.step e).source.current.get? id).isSome = true) :
    (s.source.current.get? id).isSome = true ∨ (s.step e).Awaited id := by
  rcases (transition_step s e).frames.source with
    hsame | ⟨id', status, rfl, hset⟩ | ⟨id', _, hremove⟩
  · rw [hsame] at hheld
    exact .inl hheld
  · by_cases hid : id = id'
    · subst hid
      cases hcurrent : s.source.current.get? id with
      | some stream => exact .inl rfl
      | none =>
        obtain ⟨task, position, hlistens, hposition⟩ := hs.listening
        right
        exact ⟨task, position, hlistens,
          StatusSource.announces_set hposition hcurrent status⟩
    · left
      rwa [hset, StatusSource.current_set, if_neg hid] at hheld
  · rw [hremove, StatusSource.current_remove] at hheld
    split at hheld
    next => cases hheld
    next => exact .inl hheld

/-! ## The beginning -/

theorem listening_begun (hs : s.Coherent) :
    ∃ task position, s.begun.position? task = some position ∧
      position ≤ s.begun.source.announced.size := by
  have hstarted : ({ s with started := true } : Service).Coherent :=
    hs.congr rfl rfl rfl rfl rfl rfl rfl
  have hattached := hstarted.attachKnown
  have hlaunched : (({ s with started := true } : Service).attachKnown.launch
      (.listen s.source.announced.size)).Coherent := hattached.launch rfl
  have hlistens : (({ s with started := true } : Service).attachKnown.launch
      (.listen s.source.announced.size)).tasks.get?
        ({ s with started := true } : Service).attachKnown.nextTask =
      some (.listen s.source.announced.size) := by
    change (Service.spawn _ _).tasks.get? _ = _
    rw [tasks_spawn, if_pos rfl]
  have hkept := (hlaunched.tasks_foldl_launch hlistens
    (s.nodes.watch.map fun c => .observe { c with seen := none })
    fun other hother =>
      s.cursor?_observers other (List.mem_cons_of_mem _ hother)).2
  exact ⟨_, s.source.announced.size, position?_of_get? hkept, by simp⟩

theorem attended_begun (hs : s.Coherent) (hrunning : s.shutDown = false) :
    s.begun.Attended where
  listening := listening_begun hs
  untracked := by
    intro id hheld _ hunfollowed
    simp only [begun_frame] at hheld hunfollowed
    have hnone :=
      record?_of_attachKnown (s := { s with started := true }) hrunning hheld
      hunfollowed
    simpa [record?] using hnone

/-! ## Every step -/

theorem Attended.listening_step (hs : s.Attended) (hcoherent : s.Coherent)
    (hrunning : (s.step e).shutDown = false) :
    ∃ task position, (s.step e).position? task = some position ∧
      position ≤ (s.step e).source.announced.size := by
  obtain ⟨task, position, hlistens, hposition⟩ := hs.listening
  rcases (transition_step s e).listens hcoherent hlistens with
    hsame | hshut | ⟨id, heard, hhear, ht⟩ | ⟨count, heard, hmissed, ht⟩
  · refine ⟨task, position, hsame, ?_⟩
    rcases (transition_step s e).frames.source with
      hsource | ⟨id, status, _, hset⟩ | ⟨id, _, hremove⟩
    · rwa [hsource]
    · rw [hset]
      exact Nat.le_trans hposition (StatusSource.size_announced_le_set _ _ _)
    · rwa [hremove, StatusSource.announced_remove]
  · rw [hrunning] at hshut
    cases hshut
  · have hheard := StatusSource.le_size_of_hear_announced hhear
    rw [ht]
    refine ⟨task, heard, ?_, by simpa using hheard⟩
    rw [position?_setRoutine, if_pos rfl]
    rfl
  · have hheard := StatusSource.le_size_of_hear_missed hmissed
    rw [ht]
    refine ⟨task, heard, ?_, by simpa using hheard⟩
    rw [position?_setRoutine, if_pos rfl]
    rfl

/-- Nobody stops to follow an open stream of a message whose life goes on. -/
theorem Coherent.record?_step_of_left (hs : s.Coherent) {task : Nat}
    {cursor : StatusCursor} (hcursor : s.cursor? task = some cursor)
    (hopen : (s.source.open? cursor).isSome = true)
    (hquiet : ∀ r, s.Applies e r → r.id ≠ cursor.id)
    (hclock : ∀ now, e = .setCalendar now → s.calendar ≤ now)
    (hrunning : (s.step e).shutDown = false)
    (hunfollowed : (s.step e).subscriptions.get? cursor.id = none) :
    (s.step e).record? cursor.id = none := by
  have htransition := transition_step s e
  rcases htransition.cursor?_of_get? hs hcursor with
    hkept | hshut | ⟨r, happlies, hsame⟩ | hclosed | hnone
  · have hfollower := (hs.transition htransition).follows hkept
    rw [hunfollowed] at hfollower
    cases hfollower
  · rw [hrunning] at hshut
    cases hshut
  · exact absurd hsame (hquiet r happlies)
  · rw [(StatusSource.next_eq_closed_iff.1 hclosed).2.1] at hopen
    cases hopen
  · exact record?_step_of_quiet hquiet hclock hnone

/-- A record that is applied to a message leaves it followed or without a
record. -/
theorem Applies.record?_step (happlies : s.Applies e r)
    (hkeyed : s.ledger.Keyed)
    (hheld : ((s.step e).source.current.get? r.id).isSome = true)
    (hunfollowed : (s.step e).subscriptions.get? r.id = none) :
    (s.step e).record? r.id = none := by
  cases hreceived : r.status.isReceived with
  | true => exact (happlies.forgotten hreceived).record?
  | false =>
    rw [happlies.source_eq] at hheld
    have hfollowed := happlies.followed hkeyed hreceived hheld
    rw [hunfollowed] at hfollowed
    cases hfollowed

theorem Attended.untracked_step (hs : s.Attended) (hcoherent : s.Coherent)
    (hstarted : s.started = true) (hnever : ¬ s.Forsaken id)
    (hclock : ∀ now, e = .setCalendar now → s.calendar ≤ now)
    (hrunning : (s.step e).shutDown = false)
    (hheld : ((s.step e).source.current.get? id).isSome = true)
    (hunawaited : ¬ (s.step e).Awaited id)
    (hunfollowed : (s.step e).subscriptions.get? id = none) :
    (s.step e).record? id = none := by
  by_cases happlied : ∃ r, s.Applies e r ∧ r.id = id
  · obtain ⟨r, happlies, rfl⟩ := happlied
    exact happlies.record?_step hcoherent.ledger.keyed hheld hunfollowed
  have hquiet : ∀ r, s.Applies e r → r.id ≠ id := fun r happlies hsame =>
    happlied ⟨r, happlies, hsame⟩
  have hheld : (s.source.current.get? id).isSome = true := by
    rcases hs.held_step hheld with hbefore | hawaited
    · exact hbefore
    · exact absurd hawaited hunawaited
  by_cases hawaited : s.Awaited id
  · rcases hawaited.step hcoherent hheld hrunning hunfollowed
      with hstill | hnone
    · exact absurd hstill hunawaited
    · exact hnone
  cases hfollower : s.subscriptions.get? id with
  | none =>
    exact record?_step_of_quiet hquiet hclock
      (hs.untracked id hheld hawaited hfollower)
  | some task =>
    obtain ⟨cursor, hcursor, rfl⟩ := (hcoherent.followed id task).1 hfollower
    cases hopen : s.source.open? cursor with
    | none =>
      have hforsaken : s.Forsaken cursor.id :=
        ⟨hstarted, hheld, hawaited, task, cursor, hfollower, hcursor, hopen⟩
      exact absurd hforsaken hnever
    | some stream =>
      exact hcoherent.record?_step_of_left hcursor
        (Option.isSome_of_eq_some hopen) hquiet hclock hrunning hunfollowed

/-- While the service runs, one step from a state that forsakes no message keeps
watch over all of them. -/
theorem attended_step (hcoherent : s.Coherent)
    (hs : s.started = true → s.shutDown = false → s.Attended)
    (hnever : ∀ id, ¬ s.Forsaken id)
    (hclock : ∀ now, e = .setCalendar now → s.calendar ≤ now)
    (hstarted : (s.step e).started = true)
    (hrunning : (s.step e).shutDown = false) :
    (s.step e).Attended := by
  have hbefore := running_of_step hrunning
  cases hfirst : s.started with
  | true =>
    have hattended := hs hfirst hbefore
    exact ⟨hattended.listening_step hcoherent hrunning,
      fun id hheld hunawaited hunfollowed =>
        hattended.untracked_step hcoherent hfirst
          (hnever id) hclock hrunning hheld hunawaited hunfollowed⟩
  | false =>
    rcases (transition_step s e).frames.started with hsame | rfl
    · rw [hsame, hfirst] at hstarted
      cases hstarted
    · rw [step_start hfirst hbefore]
      exact attended_begun hcoherent hbefore

/-! ## Every run -/

/-- No state of a run forsakes a message. -/
def NeverForsakes (s : Service) (events : List Event) : Prop :=
  ∀ first rest, events = first ++ rest → ∀ id, ¬ (s.run first).Forsaken id

/-- The calendar never goes back in a run. -/
def ClockAdvances (s : Service) (events : List Event) : Prop :=
  ∀ first now rest, events = first ++ .setCalendar now :: rest →
    (s.run first).calendar ≤ now

theorem attended_run {events : List Event} (hcoherent : s.Coherent)
    (hs : s.started = true → s.shutDown = false → s.Attended)
    (hclock : s.ClockAdvances events) (hnever : s.NeverForsakes events)
    (hstarted : (s.run events).started = true)
    (hrunning : (s.run events).shutDown = false) :
    (s.run events).Attended := by
  induction events generalizing s with
  | nil => exact hs hstarted hrunning
  | cons e rest ih =>
    refine ih (hcoherent.transition (transition_step s e)) ?_ ?_ ?_
      hstarted hrunning
    · apply attended_step hcoherent hs (hnever [] (e :: rest) rfl)
      rintro now rfl
      exact hclock [] now rest rfl
    · intro first now rest' hsplit
      exact hclock (e :: first) now rest' (by rw [hsplit]; rfl)
    · intro first rest' hsplit
      exact hnever (e :: first) rest' (by rw [hsplit]; rfl)

/-- A message with a live record that the source holds is followed on its
current stream when nothing is left to do. -/
theorem Attended.followed (hs : s.Attended) (hcoherent : s.Coherent)
    (hrest : s.atRest = true) {stream : StatusStream}
    (hheld : s.source.current.get? id = some stream)
    (hlive : (s.record? id).isSome = true) :
    ∃ task cursor, s.subscriptions.get? id = some task ∧
      s.tasks.get? task = some (.follow cursor) ∧
      s.source.open? cursor = some stream := by
  cases hfollower : s.subscriptions.get? id with
  | none =>
    have hnone := hs.untracked id (by rw [hheld]; rfl)
      (not_awaited_of_atRest hrest) hfollower
    rw [hnone] at hlive
    cases hlive
  | some task =>
    obtain ⟨cursor, hcursor, hid⟩ := (hcoherent.followed id task).1 hfollower
    obtain ⟨htask, _, hopen⟩ := follow_of_atRest hrest hcursor
    obtain ⟨current, hcurrent⟩ := Option.isSome_iff_exists.1 hopen
    have hsame := (StatusSource.open?_eq_some_iff.1 hcurrent).1
    rw [hid, hheld] at hsame
    cases hsame
    exact ⟨task, cursor, rfl, htask, hcurrent⟩

end Redelivery.Service
