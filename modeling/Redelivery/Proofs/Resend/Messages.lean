import Redelivery.Proofs.Resend.Timers
import Redelivery.Proofs.Resend.Transition

/-!
# What an event does to one message

Most events leave a message alone.  Its record changes only where a status is
applied to it, its counter only where it has a live record, and a task begins to
follow it only where it has one.  The facts on single messages are proved from
these, without a look at the changes one by one.
-/

namespace Redelivery.Service

/-- A record is applied: somebody registers it, or the task that follows its
message has found a status. -/
inductive Applies (s : Service) : Event → Record → Prop
  | register (r : Record) (hrunning : s.shutDown = false) :
      Applies s (.register r) r
  | follow (task : Nat) (saved : Bool) (cursor seen : StatusCursor)
      (status : DeliveryStatus) (r : Record)
      (hhears : s.Hears task cursor seen status r) :
      Applies s (.resume task saved) (r.withStatus status)

variable {s t : Service} {e : Event} {id : MessageId}

/-! ## What stays -/

/-- What an event does to the source, to the outbox, to the calendar and to the
life of the service. -/
structure Frames (s : Service) (e : Event) (t : Service) : Prop where
  source : t.source = s.source ∨
    (∃ id status, e = .report id status ∧ t.source = s.source.set id status) ∨
    ∃ id, e = .forget id ∧ t.source = s.source.remove id
  outbox : ∃ sent, t.outbox = s.outbox ++ sent
  calendar : t.calendar = s.calendar ∨ e = .setCalendar t.calendar
  started : t.started = s.started ∨ e = .start
  shutDown : t.shutDown = s.shutDown ∨ e = .shutdown

theorem outbox_of_same (houtbox : t.outbox = s.outbox) :
    ∃ sent, t.outbox = s.outbox ++ sent :=
  ⟨[], by rw [houtbox, List.append_nil]⟩

theorem Frames.of_same (hsource : t.source = s.source)
    (houtbox : t.outbox = s.outbox) (hcalendar : t.calendar = s.calendar)
    (hstarted : t.started = s.started) (hshut : t.shutDown = s.shutDown) :
    Frames s e t :=
  ⟨.inl hsource, outbox_of_same houtbox, .inl hcalendar, .inl hstarted,
    .inl hshut⟩

theorem Transition.frames (htransition : Transition s e t) : Frames s e t := by
  have houtbox := outbox_of_same (s := s) (t := s) rfl
  cases htransition with
  | report id status =>
    exact ⟨.inr (.inl ⟨id, status, rfl, rfl⟩), houtbox, .inl rfl,
      .inl rfl, .inl rfl⟩
  | forget id =>
    exact ⟨.inr (.inr ⟨id, rfl, rfl⟩), houtbox, .inl rfl, .inl rfl, .inl rfl⟩
  | setCalendar now => exact ⟨.inl rfl, houtbox, .inr rfl, .inl rfl, .inl rfl⟩
  | start =>
    exact ⟨.inl (by simp), outbox_of_same (by simp), .inl (by simp), .inr rfl,
      .inl (by simp)⟩
  | shutdown hrunning =>
    rw [shutdown_eq hrunning]
    exact ⟨.inl rfl, houtbox, .inl rfl, .inl rfl, .inr rfl⟩
  | resend id r claimed _ hclaim =>
    obtain ⟨_, _, _, _, rfl⟩ := claim_eq_some_iff.1 hclaim
    exact .of_same rfl rfl rfl rfl rfl
  | fire generation sleeper r claimed _ _ _ _ hclaim =>
    obtain ⟨_, _, _, _, rfl⟩ := claim_eq_some_iff.1 hclaim
    exact .of_same rfl rfl rfl rfl rfl
  | catchUp task saved id rest resent watching r claimed _ _ hclaim =>
    obtain ⟨_, _, _, _, rfl⟩ := claim_eq_some_iff.1 hclaim
    apply Frames.of_same <;> simp
  | chore task saved old left u _ _ hchore =>
    cases hchore with
    | send r next =>
      refine ⟨.inl (by simp), ⟨[⟨s.clock, r⟩], by simp⟩, ?_, ?_, ?_⟩ <;> simp
    | _ => apply Frames.of_same <;> simp
  | retire | enroll | restate | hear | rescan | drop | leave =>
    apply Frames.of_same <;> simp
  | _ => exact .of_same rfl rfl rfl rfl rfl

/-! ## Records and counters -/

/-- The ledger changes where a record is applied and where an attempt is
claimed. -/
theorem Transition.ledger_cases (htransition : Transition s e t) :
    t.ledger = s.ledger ∨
      (∃ r, s.Applies e r ∧
        t.ledger = if r.status.isReceived then s.ledger.remove r.id
          else s.ledger.upsert r) ∨
      ∃ id n, (s.record? id).isSome = true ∧
        t.ledger = s.ledger.setAttempts id n := by
  cases htransition with
  | shutdown hrunning => exact .inl (by rw [shutdown_eq hrunning])
  | retire r hrunning =>
    exact .inr (.inl ⟨r, .register r hrunning, by simp [ledger_apply]⟩)
  | enroll r hrunning =>
    exact .inr (.inl ⟨r, .register r hrunning, by simp [ledger_apply]⟩)
  | resend id r claimed _ hclaim =>
    obtain ⟨hrecord, _, _, _, rfl⟩ := claim_eq_some_iff.1 hclaim
    exact .inr (.inr ⟨id, _, Option.isSome_iff_exists.2 ⟨r, hrecord⟩, rfl⟩)
  | fire generation sleeper r claimed _ _ _ _ hclaim =>
    obtain ⟨hrecord, _, _, _, rfl⟩ := claim_eq_some_iff.1 hclaim
    exact .inr (.inr
      ⟨sleeper.id, _, Option.isSome_iff_exists.2 ⟨r, hrecord⟩, rfl⟩)
  | catchUp task saved id rest resent watching r claimed _ _ hclaim =>
    obtain ⟨hrecord, _, _, _, rfl⟩ := claim_eq_some_iff.1 hclaim
    refine .inr (.inr ⟨id, nextCount (attemptsMade (s.attempts? id)),
      Option.isSome_iff_exists.2 ⟨r, hrecord⟩, ?_⟩)
    simp
  | restate task saved cursor seen status r hhears =>
    exact .inr (.inl ⟨_, .follow task saved cursor seen status r hhears,
      by simp [ledger_apply]⟩)
  | chore task saved old left u _ _ hchore =>
    left
    cases hchore <;> simp
  | start | hear | rescan | drop | leave => left; simp
  | _ => exact .inl rfl

theorem Transition.get?_of_quiet (htransition : Transition s e t)
    (hquiet : ∀ r, s.Applies e r → r.id ≠ id) :
    t.ledger.get? id = s.ledger.get? id := by
  rcases htransition.ledger_cases with hsame | ⟨r, happlies, hledger⟩ |
    ⟨id', n, _, hledger⟩
  · rw [hsame]
  · have hother : id ≠ r.id := fun same => hquiet r happlies same.symm
    rw [hledger]
    split
    next => rw [Ledger.get?_remove, if_neg hother]
    next => rw [Ledger.get?_upsert, if_neg hother]
  · rw [hledger, Ledger.get?_setAttempts]

theorem Transition.attempts?_of_quiet (htransition : Transition s e t)
    (hquiet : ∀ r, s.Applies e r → r.id ≠ id) :
    t.ledger.attempts? id = s.ledger.attempts? id ∨
    (s.record? id).isSome = true := by
  rcases htransition.ledger_cases with hsame | ⟨r, happlies, hledger⟩ |
    ⟨id', n, hlive, hledger⟩
  · rw [hsame]
    exact .inl rfl
  · have hother : id ≠ r.id := fun same => hquiet r happlies same.symm
    left
    rw [hledger]
    split
    next => rw [Ledger.attempts?_remove, if_neg hother]
    next => rfl
  · by_cases hsame : id = id'
    · rw [hsame]
      exact .inr hlive
    · left
      rw [hledger, Ledger.attempts?_setAttempts, if_neg hsame]

/-! ## Timers -/

theorem timers_apply_of_ne (hrunning : s.shutDown = false) {r : Record}
    (hother : r.id ≠ id) (origin : Option Nat) :
    (s.apply r origin).scheduler.timers.get? id =
      s.scheduler.timers.get? id := by
  have hother' : id ≠ r.id := fun same => hother same.symm
  rw [scheduler_apply hrunning]
  split
  next => rw [Scheduler.timers_arm, if_neg hother']
  next => rw [Scheduler.timers_cancel, if_neg hother']

/-- A timer that nobody applies a record to stays as it is or goes. -/
theorem Transition.timers_of_quiet (htransition : Transition s e t)
    (hquiet : ∀ r, s.Applies e r → r.id ≠ id) :
    t.scheduler.timers.get? id = s.scheduler.timers.get? id ∨
      t.scheduler.timers.get? id = none := by
  cases htransition with
  | shutdown hrunning =>
    right
    rw [shutdown_eq hrunning]
    exact Scheduler.timers_cancelAll s.scheduler id
  | retire r hrunning =>
    have hother := hquiet r (.register r hrunning)
    left
    exact timers_apply_of_ne (s := s.spawn (.save (.answer 0))) hrunning
      hother none
  | enroll r hrunning =>
    have hother := hquiet r (.register r hrunning)
    left
    simp only [attach_frame]
    exact timers_apply_of_ne (s := s.spawn (.save (.answer 0))) hrunning
      hother none
  | restate task saved cursor seen status r hhears =>
    left
    have hother := hquiet _ (.follow task saved cursor seen status r hhears)
    simp only [setRoutine_frame]
    exact timers_apply_of_ne hhears.running hother (some task)
  | resend id' r claimed _ hclaim =>
    obtain ⟨_, _, _, _, rfl⟩ := claim_eq_some_iff.1 hclaim
    exact .inl rfl
  | exhaust generation sleeper _ _ _ hcurrent =>
    simp only [woken]
    rw [Scheduler.timers_complete_wake hcurrent]
    split
    next => exact .inr rfl
    next => exact .inl rfl
  | fire generation sleeper r claimed _ _ _ hcurrent hclaim =>
    obtain ⟨_, _, _, _, rfl⟩ := claim_eq_some_iff.1 hclaim
    simp only [woken, spawn_frame]
    rw [Scheduler.timers_complete_wake hcurrent]
    split
    next => exact .inr rfl
    next => exact .inl rfl
  | catchUp task saved id' rest resent watching r claimed _ _ hclaim =>
    obtain ⟨_, _, _, _, rfl⟩ := claim_eq_some_iff.1 hclaim
    left
    simp
  | chore task saved old left u _ _ hchore =>
    left
    cases hchore <;> simp
  | start | hear | rescan | drop | leave => left; simp
  | _ => exact .inl rfl

/-! ## Subscriptions -/

theorem subscriptions_attach_of_ne {id' : MessageId} (hother : id ≠ id') :
    (s.attach id').subscriptions.get? id = s.subscriptions.get? id := by
  rcases attach_cases s id' with ⟨hsame, _⟩ | ⟨stream, _, _, _, hattach⟩
  · rw [hsame]
  · rw [hattach]
    simp [hother]

theorem record?_attachTracked (s : Service) (id' id : MessageId) :
    (s.attachTracked id').record? id = s.record? id := by
  simp [record?]

theorem subscriptions_attachTracked (s : Service) (id' id : MessageId) :
    (s.attachTracked id').subscriptions.get? id = s.subscriptions.get? id ∨
      (s.record? id).isSome = true := by
  refine attachTracked_elim (.inl rfl) ?_
  intro hlive
  by_cases hsame : id = id'
  · rw [hsame]
    exact .inr hlive
  · exact .inl (subscriptions_attach_of_ne hsame)

theorem subscriptions_attachKnown (s : Service) (id : MessageId) :
    s.attachKnown.subscriptions.get? id = s.subscriptions.get? id ∨
      (s.record? id).isSome = true := by
  have hboth : s.attachKnown.record? id = s.record? id ∧
      (s.attachKnown.subscriptions.get? id = s.subscriptions.get? id ∨
        (s.record? id).isSome = true) := by
    refine attachKnown_induction ⟨rfl, .inl rfl⟩ ?_
    rintro t id' ⟨hrecord, ht⟩
    refine ⟨by rw [record?_attachTracked, hrecord], ?_⟩
    rcases subscriptions_attachTracked t id' id with hsame | hlive
    · rwa [hsame]
    · rw [hrecord] at hlive
      exact .inr hlive
  exact hboth.2

/-- A task begins to follow a message that nobody applies a record to only if it
has a live one. -/
theorem Transition.subscriptions_of_quiet (htransition : Transition s e t)
    (hquiet : ∀ r, s.Applies e r → r.id ≠ id) :
    t.subscriptions.get? id = s.subscriptions.get? id ∨
      t.subscriptions.get? id = none ∨ (s.record? id).isSome = true := by
  cases htransition with
  | start =>
    simp only [begun_frame]
    rcases subscriptions_attachKnown { s with started := true } id
      with hsame | hlive
    · exact .inl hsame
    · exact .inr (.inr hlive)
  | shutdown hrunning =>
    right
    left
    rw [shutdown_eq hrunning]
    rfl
  | retire r hrunning hreceived =>
    have hother : id ≠ r.id :=
      fun same => hquiet r (.register r hrunning) same.symm
    left
    rw [subscriptions_apply, if_pos hreceived]
    simp [hother]
  | enroll r hrunning howed =>
    have hother : id ≠ r.id :=
      fun same => hquiet r (.register r hrunning) same.symm
    left
    rw [subscriptions_attach_of_ne hother, subscriptions_apply]
    simp [howed]
  | restate task saved cursor seen status r hhears =>
    have hother : id ≠ (r.withStatus status).id :=
      fun same => hquiet _
        (.follow task saved cursor seen status r hhears) same.symm
    left
    simp only [setRoutine_frame, subscriptions_apply]
    split
    next => rw [Table.get?_erase, if_neg hother]
    next => rfl
  | resend id' r claimed _ hclaim =>
    obtain ⟨_, _, _, _, rfl⟩ := claim_eq_some_iff.1 hclaim
    exact .inl rfl
  | fire generation sleeper r claimed _ _ _ _ hclaim =>
    obtain ⟨_, _, _, _, rfl⟩ := claim_eq_some_iff.1 hclaim
    exact .inl rfl
  | catchUp task saved id' rest resent watching r claimed _ _ hclaim =>
    obtain ⟨_, _, _, _, rfl⟩ := claim_eq_some_iff.1 hclaim
    left
    simp
  | drop task saved cursor =>
    simp only [setRoutine_frame, Table.get?_erase]
    split
    next => exact .inr (.inl rfl)
    next => exact .inl rfl
  | hear task saved position heard id' =>
    simp only [setRoutine_frame]
    rcases subscriptions_attachTracked s id' id with hsame | hlive
    · exact .inl hsame
    · exact .inr (.inr hlive)
  | rescan task saved position heard count =>
    simp only [setRoutine_frame]
    rcases subscriptions_attachKnown s id with hsame | hlive
    · exact .inl hsame
    · exact .inr (.inr hlive)
  | chore task saved old left u _ _ hchore =>
    left
    cases hchore <;> simp
  | leave => left; simp
  | _ => exact .inl rfl

end Redelivery.Service
