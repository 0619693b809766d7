import Redelivery.Proofs.Resend.Desertion
import Redelivery.Proofs.Resend.Firing
import Redelivery.Proofs.Resend.Pieces

/-!
# Registering what the source knows better

A message may be registered with a status that the source has left behind.
Whoever follows the message from then on has the status of the source yet to
see, and applies it when its turn comes; so the registration comes to what it
would have come to with that status.  But somebody who follows the message
already and has seen the status of the source does not see it again, and the
status of the registration stays; and somebody who is left on a stream that has
ended goes away without it.
-/

namespace Redelivery

theorem Event.isWithin_of_isInternal {e : Event}
    (hinternal : e.isInternal = true) :
    e.isWithin = true := by
  cases e <;> first | rfl | cases hinternal

namespace Service

variable {s t : Service} {e : Event} {id : MessageId} {r r' : Record}
  {cursor : StatusCursor}
  {stream : StatusStream} {delay : UInt64} {settling : List Event}

/-! ## Timers whose time has not come -/

/-- A timer is armed for a message, and its time has not come. -/
def Waits (s : Service) (id : MessageId) (delay : UInt64) : Prop :=
  ∃ generation due, s.scheduler.timers.get? id = some ⟨generation, delay⟩ ∧
    s.scheduler.sleepers.get? generation = some ⟨id, due⟩ ∧ s.clock < due

/-- The timer of a record is the one that its status asks for; one that is to
wait for no time may be gone. -/
def Timed (s : Service) (r : Record) : Prop :=
  match (r.status.classify s.config).timer with
  | .cancel => s.scheduler.timers.get? r.id = none
  | .arm delay =>
    s.Waits r.id delay ∨
      delay = 0 ∧ ∀ timer, s.scheduler.timers.get? r.id = some timer →
        timer.delay = 0

theorem waits_arm (hscheduler : t.scheduler = s.scheduler.arm s.clock id delay)
    (hclock : t.clock = s.clock) (hdelay : delay ≠ 0) : t.Waits id delay := by
  refine ⟨s.scheduler.nextGeneration, s.clock + sleepTime delay.toNat,
    ?_, ?_, ?_⟩
  · rw [hscheduler, Scheduler.timers_arm, if_pos rfl]
  · rw [hscheduler]
    simp [Scheduler.arm]
  · have hlong : 0 < delay.toNat := Nat.pos_of_ne_zero fun hzero =>
      hdelay (UInt64.toNat_inj.1 hzero)
    have hsleeps := sleepTime_pos hlong
    omega

theorem Applies.timed (happlies : s.Applies e r) : (s.step e).Timed r := by
  have hscheduler := happlies.scheduler_eq
  have hstays := (transition_step s e).stays (by cases happlies <;> rfl)
  unfold Timed
  rw [← hstays.config]
  split
  next hcancel =>
    rw [hcancel] at hscheduler
    rw [hscheduler, Scheduler.timers_cancel, if_pos rfl]
  next delay harm =>
    rw [harm] at hscheduler
    by_cases hdelay : delay = 0
    · refine .inr ⟨hdelay, fun timer htimer => ?_⟩
      rw [hscheduler, Scheduler.timers_arm, if_pos rfl] at htimer
      cases htimer
      exact hdelay
    · exact .inl (waits_arm hscheduler hstays.clock.symm hdelay)

/-- A timer whose time has not come is not taken away by another one that
fires. -/
theorem timers_woken {generation : Nat} {sleeper : Sleeper}
    (hwaits : s.Waits id delay)
    (hsleeper : s.scheduler.sleepers.get? generation = some sleeper)
    (hdue : sleeper.due ≤ s.clock)
    (hcurrent : s.scheduler.isCurrent sleeper.id generation = true) :
    (s.woken generation sleeper.id).scheduler.timers.get? id =
      s.scheduler.timers.get? id := by
  obtain ⟨waiting, due, htimer, hwaiting, hearly⟩ := hwaits
  have hother : id ≠ sleeper.id := by
    intro hsame
    obtain ⟨_, hfires⟩ := Scheduler.isCurrent_iff.1 hcurrent
    cases (hsame ▸ htimer).symm.trans hfires
    rw [hwaiting] at hsleeper
    obtain rfl := Option.some.inj hsleeper
    exact Nat.not_le_of_lt hearly hdue
  exact (Scheduler.timers_complete_wake hcurrent id).trans (if_neg hother)

theorem Transition.timers_of_waits (htransition : Transition s e t)
    (hwaits : s.Waits id delay) (hinternal : e.isInternal = true)
    (hquiet : ∀ r, s.Applies e r → r.id ≠ id) :
    t.scheduler.timers.get? id = s.scheduler.timers.get? id := by
  cases htransition with
  | exhaust generation sleeper hsleeper hdue _ hcurrent =>
    exact timers_woken hwaits hsleeper hdue hcurrent
  | fire generation sleeper r claimed hsleeper hdue _ hcurrent hclaim =>
    obtain ⟨_, _, _, _, rfl⟩ := claim_eq_some_iff.1 hclaim
    exact timers_woken hwaits hsleeper hdue hcurrent
  | catchUp task saved id' rest resent watching r claimed _ _ hclaim =>
    obtain ⟨_, _, _, _, rfl⟩ := claim_eq_some_iff.1 hclaim
    simp
  | chore task saved old left u _ _ hchore => cases hchore <;> simp
  | restate task saved cursor seen status r hhears =>
    have hother := hquiet _ (.follow task saved cursor seen status r hhears)
    simpa using timers_apply_of_ne hhears.running hother (some task)
  | drop | leave | hear | rescan => simp
  | idle | lapse | refuse => rfl
  | _ => cases hinternal

/-- A timer whose time has not come stays, and so does what waits for its
time. -/
theorem Waits.step (hwaits : s.Waits id delay) (hs : s.Coherent)
    (hinternal : e.isInternal = true)
    (hquiet : ∀ r, s.Applies e r → r.id ≠ id) :
    (s.step e).Waits id delay := by
  have htransition := transition_step s e
  have htimers := htransition.timers_of_waits hwaits hinternal hquiet
  have hclock := htransition.clock (Event.isWithin_of_isInternal hinternal)
  obtain ⟨generation, due, htimer, hsleeper, hearly⟩ := hwaits
  rw [htimer] at htimers
  obtain ⟨due', hsleeper'⟩ :=
    (hs.transition htransition).matched.waiting _ _ htimers
  rcases htransition.grows.sleepers _ _ hsleeper' with hbefore | hnew
  · cases hsleeper.symm.trans hbefore
    exact ⟨generation, due, htimers, hsleeper', by rwa [hclock]⟩
  · exact absurd hnew (Nat.not_le_of_lt (hs.matched.used hsleeper))

theorem Timed.step (htimed : s.Timed r) (hs : s.Coherent)
    (hinternal : e.isInternal = true)
    (hquiet : ∀ r', s.Applies e r' → r'.id ≠ r.id) : (s.step e).Timed r := by
  have hkept := (transition_step s e).timers_of_quiet hquiet
  unfold Timed at htimed ⊢
  rw [(transition_step s e).config]
  split at htimed
  next =>
    rcases hkept with hsame | hgone
    · rw [hsame, htimed]
    · exact hgone
  next delay =>
    rcases htimed with hwaits | ⟨hzero, htimers⟩
    · exact .inl (hwaits.step hs hinternal hquiet)
    · refine .inr ⟨hzero, fun timer htimer => ?_⟩
      rcases hkept with hsame | hgone
      · exact htimers timer (hsame ▸ htimer)
      · rw [hgone] at htimer
        cases htimer

/-! ## Followers on the stream of the source -/

/-- A message with a live record is followed on the stream that the source goes
on with. -/
structure FollowedOn (s : Service) (r : Record) (cursor : StatusCursor)
    (stream : StatusStream) :
    Prop where
  running : s.shutDown = false
  live : s.record? r.id = some r
  follower : ∃ task, s.cursor? task = some cursor
  own : cursor.id = r.id
  opened : s.source.open? cursor = some stream

theorem FollowedOn.isSubscribed (h : s.FollowedOn r cursor stream)
    (hs : s.Coherent) :
    s.isSubscribed r.id = true := by
  obtain ⟨task, hcursor⟩ := h.follower
  have hfollower := hs.follows hcursor
  rw [h.own] at hfollower
  simp [Service.isSubscribed, Table.contains_eq, hfollower]

/-- What the service does by itself leaves the follower where it is until it
applies a status. -/
theorem FollowedOn.step (h : s.FollowedOn r cursor stream) (hs : s.Coherent)
    (hinternal : e.isInternal = true)
    (hquiet : ∀ r', s.Applies e r' → r'.id ≠ r.id) :
    (s.step e).FollowedOn r cursor stream := by
  have htransition := transition_step s e
  have hstays := htransition.stays (Event.isWithin_of_isInternal hinternal)
  obtain ⟨task, hcursor⟩ := h.follower
  refine ⟨hstays.shutDown ▸ h.running, ?_, ⟨task, ?_⟩, h.own,
    hstays.source ▸ h.opened⟩
  · have hrecord := htransition.get?_of_quiet hquiet
    have hlive := h.live
    rw [record?, Ledger.find?_eq_some_iff] at hlive ⊢
    rwa [hrecord, ← hstays.calendar]
  · rcases htransition.cursor?_of_get? hs hcursor with
      hkept | hshut | ⟨r', happlies, hsame⟩ | hclosed | hnone
    · exact hkept
    · rw [← hstays.shutDown, h.running] at hshut
      cases hshut
    · exact absurd (hsame.trans h.own) (hquiet r' happlies)
    · have hopen := h.opened
      rw [(StatusSource.next_eq_closed_iff.1 hclosed).2.1] at hopen
      cases hopen
    · rw [h.own, h.live] at hnone
      cases hnone

/-- A follower that has seen all that there is applies nothing. -/
theorem FollowedOn.quiet (h : s.FollowedOn r cursor stream) (hs : s.Coherent)
    (hseen : cursor.seen = some stream.version)
    (hinternal : e.isInternal = true) (happlies : s.Applies e r') :
    r'.id ≠ r.id := by
  intro hsame
  obtain ⟨task, hcursor⟩ := h.follower
  cases happlies with
  | register => cases hinternal
  | follow worker saved other seen status found hhears =>
    obtain rfl := hs.eq_of_hears hcursor hhears (hsame.trans h.own.symm)
    obtain ⟨stream', hunseen, _⟩ :=
      StatusSource.next_eq_changed_iff.1 hhears.sighted
    obtain ⟨hstream, hlater⟩ := StatusSource.unseen?_eq_some_iff.1 hunseen
    rw [StatusSource.stream?_of_open? h.opened] at hstream
    cases hstream
    exact hlater hseen

/-- What a follower applies that has something to see is the status of the
stream. -/
theorem FollowedOn.applied (h : s.FollowedOn r cursor stream) (hs : s.Coherent)
    (hinternal : e.isInternal = true) (happlies : s.Applies e r')
    (hsame : r'.id = r.id) :
    r' = r.withStatus stream.status ∧
      (stream.status.isReceived = false →
        (s.step e).FollowedOn (r.withStatus stream.status)
        { cursor with seen := some stream.version } stream) := by
  obtain ⟨task, hcursor⟩ := h.follower
  cases happlies with
  | register => cases hinternal
  | follow worker saved other seen status found hhears =>
    obtain rfl := hs.eq_of_hears hcursor hhears (hsame.trans h.own.symm)
    obtain ⟨stream', hunseen, rfl, rfl⟩ :=
      StatusSource.next_eq_changed_iff.1 hhears.sighted
    obtain ⟨hstream, -⟩ := StatusSource.unseen?_eq_some_iff.1 hunseen
    rw [StatusSource.stream?_of_open? h.opened] at hstream
    cases hstream
    have hlive := hhears.live
    rw [h.own, h.live] at hlive
    cases hlive
    refine ⟨rfl, fun howed => ?_⟩
    have hstays := (transition_step s (.resume worker saved)).stays rfl
    refine ⟨hstays.shutDown ▸ h.running, ?_, ⟨worker, ?_⟩, h.own, ?_⟩
    · have hlive := Ledger.find?_eq_some_iff.1 h.live
      refine Ledger.find?_eq_some_iff.2 ⟨?_, hstays.calendar ▸ hlive.2⟩
      rw [step_of_hears hhears]
      simp only [setRoutine_frame, ledger_apply, Record.withStatus, howed,
        Bool.false_eq_true, if_false]
      exact (Ledger.get?_upsert ..).trans (if_pos rfl)
    · rw [step_of_hears hhears]
      simp [howed]
    · rw [← hstays.source]
      exact h.opened

/-! ## What a registration comes to -/

/-- A follower has seen all that there is, and the timer is the one that the
record asks for. -/
structure Upheld (s : Service) (r : Record) (cursor : StatusCursor)
    (stream : StatusStream) :
    Prop where
  followed : s.FollowedOn r cursor stream
  seen : cursor.seen = some stream.version
  owed : r.status.isReceived = false
  timed : s.Timed r

theorem Upheld.step (h : s.Upheld r cursor stream) (hs : s.Coherent)
    (hinternal : e.isInternal = true) : (s.step e).Upheld r cursor stream := by
  have hquiet : ∀ r', s.Applies e r' → r'.id ≠ r.id :=
    fun r' happlies => h.followed.quiet hs h.seen hinternal happlies
  exact ⟨h.followed.step hs hinternal hquiet, h.seen, h.owed,
    h.timed.step hs hinternal hquiet⟩

theorem Upheld.run (h : s.Upheld r cursor stream) (hs : s.Coherent)
    (hinternal : ∀ e ∈ settling, e.isInternal = true) :
    (s.run settling).Upheld r cursor stream := by
  induction settling generalizing s with
  | nil => exact h
  | cons e rest ih =>
    have hfirst := h.step hs (hinternal e List.mem_cons_self)
    exact ih hfirst (hs.transition (transition_step s e)) fun e' he' =>
      hinternal e' (List.mem_cons_of_mem _ he')

/-- The status of the source is still to be seen, was applied last, or was the
end of the message. -/
inductive Taking (s : Service) (r : Record) (stream : StatusStream) : Prop
  | pending (cursor : StatusCursor) (h : s.FollowedOn r cursor stream)
      (hunseen : cursor.seen ≠ some stream.version)
  | upheld (cursor : StatusCursor)
      (h : s.Upheld (r.withStatus stream.status) cursor stream)
  | delivered (hreceived : stream.status.isReceived = true)
      (h : s.Forgotten r.id)

theorem Taking.step (h : s.Taking r stream) (hs : s.Coherent)
    (hinternal : e.isInternal = true) :
    (s.step e).Taking r stream := by
  cases h with
  | pending cursor h hunseen =>
    by_cases happlied : ∃ r', s.Applies e r' ∧ r'.id = r.id
    · obtain ⟨r', happlies, hsame⟩ := happlied
      obtain ⟨rfl, hfollowed⟩ := h.applied hs hinternal happlies hsame
      cases hreceived : stream.status.isReceived with
      | true => exact .delivered hreceived (happlies.forgotten hreceived)
      | false =>
        exact .upheld _ ⟨hfollowed hreceived, rfl, hreceived, happlies.timed⟩
    · have hquiet : ∀ r', s.Applies e r' → r'.id ≠ r.id :=
        fun r' happlies hsame => happlied ⟨r', happlies, hsame⟩
      exact .pending cursor (h.step hs hinternal hquiet) hunseen
  | upheld cursor h => exact .upheld cursor (h.step hs hinternal)
  | delivered hreceived h =>
    refine .delivered hreceived
      (h.transition hs.ledger.keyed ?_ (transition_step s e))
    rintro r' rfl
    cases hinternal

theorem Taking.run (h : s.Taking r stream) (hs : s.Coherent)
    (hinternal : ∀ e ∈ settling, e.isInternal = true) :
    (s.run settling).Taking r stream := by
  induction settling generalizing s with
  | nil => exact h
  | cons e rest ih =>
    have hfirst := h.step hs (hinternal e List.mem_cons_self)
    exact ih hfirst (hs.transition (transition_step s e)) fun e' he' =>
      hinternal e' (List.mem_cons_of_mem _ he')

/-- Whoever follows a message that is to be registered does so on the stream
that the source goes on with, and has yet to see its status, unless the new
record has it already. -/
def Heeds (s : Service) (r : Record) : Prop :=
  ∀ task cursor, s.subscriptions.get? r.id = some task →
    s.cursor? task = some cursor →
    ∃ stream, s.source.open? cursor = some stream ∧
      (cursor.seen ≠ some stream.version ∨ r.status = stream.status)

/-- A follower that has something to see, or has seen the status that the record
has. -/
theorem taking_of_followedOn (h : s.FollowedOn r cursor stream)
    (howed : r.status.isReceived = false) (htimed : s.Timed r)
    (hheeds : cursor.seen ≠ some stream.version ∨ r.status = stream.status) :
    s.Taking r stream := by
  by_cases hseen : cursor.seen = some stream.version
  · have hstatus : r.status = stream.status :=
      hheeds.resolve_left fun hunseen => hunseen hseen
    have hsame : r.withStatus stream.status = r := by rw [← hstatus]; rfl
    refine .upheld cursor ?_
    rw [hsame]
    exact ⟨h, hseen, howed, htimed⟩
  · exact .pending cursor h hseen

/-- A message whose record is there is followed from then on, and its follower
has the status of the source to see if the record does not have it. -/
theorem taking_of_attach (hs : s.Coherent) (hrunning : s.shutDown = false)
    (hlive : s.record? r.id = some r) (howed : r.status.isReceived = false)
    (htimed : (s.attach r.id).Timed r)
    (hheld : s.source.current.get? r.id = some stream) (hheeds : s.Heeds r) :
    (s.attach r.id).Taking r stream := by
  rcases attach_cases s r.id with ⟨hsame, hrefused⟩ |
    ⟨stream', _, hfree, hcurrent, hattach⟩
  · rw [hsame] at htimed ⊢
    have hfollowed : (s.subscriptions.get? r.id).isSome = true := by
      rcases hrefused with hshut | hfollowed | hunknown
      · rw [hrunning] at hshut
        cases hshut
      · exact hfollowed
      · rw [hheld] at hunknown
        cases hunknown
    obtain ⟨task, hfollower⟩ := Option.isSome_iff_exists.1 hfollowed
    obtain ⟨cursor, hcursor, hid⟩ := (hs.followed r.id task).1 hfollower
    obtain ⟨stream', hopen, hheeds⟩ := hheeds task cursor hfollower hcursor
    have hcurrent := (StatusSource.open?_eq_some_iff.1 hopen).1
    rw [hid, hheld] at hcurrent
    cases hcurrent
    exact taking_of_followedOn ⟨hrunning, hlive, ⟨task, hcursor⟩, hid, hopen⟩
      howed htimed hheeds
  · cases hheld.symm.trans hcurrent
    rw [hattach] at htimed ⊢
    have hopen : s.source.open? (s.firstCursor r.id stream) = some stream :=
      StatusSource.open?_eq_some_iff.2 ⟨hheld, rfl⟩
    refine taking_of_followedOn ⟨hrunning, hlive, ⟨s.nextTask, ?_⟩, rfl, hopen⟩
      howed htimed ?_
    · exact (cursor?_spawn s _ _).trans (if_pos rfl)
    · by_cases hstatus : r.status = stream.status
      · exact .inr hstatus
      · left
        simp [firstCursor, hlive, hstatus]

/-- A registration stores the record, and then has the message followed. -/
theorem record?_register (hfresh : r.isExpired s.calendar = false)
    (howed : r.status.isReceived = false) :
    ((s.spawn (.save (.answer 0))).apply r none).record? r.id = some r := by
  refine Ledger.find?_eq_some_iff.2 ⟨?_, by simpa using hfresh⟩
  rw [ledger_apply, howed]
  exact (Ledger.get?_upsert ..).trans (if_pos rfl)

/-- After a registration the status of the source was applied last or is still
to be seen. -/
theorem taking_of_register (hs : s.Coherent) (hrunning : s.shutDown = false)
    (hfresh : r.isExpired s.calendar = false)
    (howed : r.status.isReceived = false)
    (hheld : s.source.current.get? r.id = some stream) (hheeds : s.Heeds r) :
    (s.step (.register r)).Taking r stream := by
  have htimed : (s.step (.register r)).Timed r :=
    (Applies.register r hrunning).timed
  rw [step_register_of_owed hrunning howed] at htimed ⊢
  have hspawned : (s.spawn (.save (.answer 0))).Coherent := hs.spawn rfl
  have happlied := hspawned.apply_of_owed hrunning howed none
  refine taking_of_attach happlied (by simpa using hrunning)
    (record?_register hfresh howed) howed htimed (by simpa using hheld) ?_
  intro task cursor hfollower hcursor
  rw [subscriptions_apply, howed] at hfollower
  have hbefore : s.cursor? task = some cursor :=
    cursor?_of_spawn rfl (cursor?_of_apply hcursor)
  simpa using hheeds task cursor hfollower hbefore

/-! ## What a registration misses -/

/-- Somebody follows the message on the stream that the source goes on with, and
has seen its status. -/
def HasSeen (s : Service) (id : MessageId) : Prop :=
  ∃ task cursor stream, s.subscriptions.get? id = some task ∧
    s.cursor? task = some cursor ∧
    s.source.open? cursor = some stream ∧ cursor.seen = some stream.version

/-- Nobody begins to follow a message that is followed already. -/
theorem step_register_of_followed (hrunning : s.shutDown = false)
    (howed : r.status.isReceived = false)
    (hfollowed : (s.subscriptions.get? r.id).isSome = true) :
    s.step (.register r) = (s.spawn (.save (.answer 0))).apply r none := by
  rw [step_register_of_owed hrunning howed]
  refine attach_of_refused (.inr (.inl ?_))
  rw [subscriptions_apply, howed]
  exact hfollowed

/-- Who follows a message when it is registered did so before. -/
theorem cursor?_of_register (hs : s.Coherent) (hrunning : s.shutDown = false)
    (howed : r.status.isReceived = false) {task : Nat}
    (hfollower : s.subscriptions.get? r.id = some task)
    (hcursor : s.cursor? task = some cursor) :
    (s.step (.register r)).cursor? task = some cursor := by
  have hregistered :=
    step_register_of_followed hrunning howed (by simp [hfollower])
  have hcoherent := hs.transition (transition_step s (.register r))
  rw [hregistered] at hcoherent ⊢
  have hstill :
      ((s.spawn (.save (.answer 0))).apply r none).subscriptions.get? r.id =
      some task := by
    rw [subscriptions_apply, howed]
    exact hfollower
  obtain ⟨cursor', hcursor', _⟩ := (hcoherent.followed r.id task).1 hstill
  have hbefore : s.cursor? task = some cursor' :=
    cursor?_of_spawn rfl (cursor?_of_apply hcursor')
  obtain rfl := Option.some.inj (hbefore.symm.trans hcursor)
  exact hcursor'

/-- The status of a registration stays if the follower has seen that of the
source before. -/
theorem upheld_of_register (hs : s.Coherent) (hrunning : s.shutDown = false)
    (hfresh : r.isExpired s.calendar = false)
    (howed : r.status.isReceived = false) (hseen : s.HasSeen r.id) :
    ∃ cursor stream, (s.step (.register r)).Upheld r cursor stream := by
  obtain ⟨task, cursor, stream, hfollower, hcursor, hopen, hseen⟩ := hseen
  have hkept := cursor?_of_register hs hrunning howed hfollower hcursor
  have htimed : (s.step (.register r)).Timed r :=
    (Applies.register r hrunning).timed
  have hown : cursor.id = r.id := by
    obtain ⟨cursor', hcursor', hid⟩ := (hs.followed r.id task).1 hfollower
    rw [hcursor] at hcursor'
    cases hcursor'
    exact hid
  have hregistered :=
    step_register_of_followed hrunning howed (by simp [hfollower])
  refine ⟨cursor, stream, ⟨?_, ?_, ⟨task, hkept⟩, hown, ?_⟩, hseen,
    howed, htimed⟩
  · rw [hregistered]
    simpa using hrunning
  · rw [hregistered]
    exact record?_register hfresh howed
  · rw [hregistered]
    simpa using hopen

/-- Somebody who is left on a stream that has ended stays there when the message
is registered. -/
theorem deserted_of_register (hs : s.Coherent) (hrunning : s.shutDown = false)
    (howed : r.status.isReceived = false) (hforsaken : s.Forsaken r.id) :
    (s.step (.register r)).Deserted r.id := by
  obtain ⟨task, cursor, hfollower, hcursor, hended⟩ := hforsaken.stale
  have hkept := cursor?_of_register hs hrunning howed hfollower hcursor
  have hregistered :=
    step_register_of_followed hrunning howed (by simp [hfollower])
  have hsource : (s.step (.register r)).source = s.source := by
    rw [hregistered]
    simp
  refine ⟨hsource ▸ hforsaken.held, ?_, ?_⟩
  · rintro ⟨listener, position, hposition, hannounces⟩
    rw [hsource] at hannounces
    rw [hregistered] at hposition
    have hbefore :=
      keepsListeners_spawn s rfl _ _ (keepsListeners_apply _ _ _ _ _ hposition)
    exact hforsaken.unawaited ⟨listener, position, hbefore, hannounces⟩
  · intro task' cursor' hfollower' hcursor'
    rw [hregistered, subscriptions_apply, howed] at hfollower'
    cases hfollower.symm.trans hfollower'
    cases hkept.symm.trans hcursor'
    rw [hsource]
    exact hended

/-! ## What a message comes to -/

/-- A message is as if a status had been applied to its record last. -/
structure AppliedLast (s : Service) (r : Record)
    (status : DeliveryStatus) : Prop where
  delivered : status.isReceived = true → s.Forgotten r.id
  record : status.isReceived = false →
    s.ledger.get? r.id = some (r.withStatus status)
  followed : status.isReceived = false → s.isSubscribed r.id = true
  armed : ∀ delay, (status.classify s.config).timer = .arm delay → delay ≠ 0 →
    s.scheduler.armedDelay? r.id = some delay
  /-- A timer that is to wait for no time may have fired already. -/
  instant : (status.classify s.config).timer = .arm 0 →
    ∀ delay ∈ s.scheduler.armedDelay? r.id, delay = 0
  unarmed : (status.classify s.config).timer = .cancel →
    s.scheduler.armedDelay? r.id = none

theorem Upheld.appliedLast (h : s.Upheld r cursor stream) (hs : s.Coherent) :
    s.AppliedLast r r.status := by
  have htimed := h.timed
  have hdelay (delay : UInt64) (hwaits : s.Waits r.id delay) :
      s.scheduler.armedDelay? r.id = some delay := by
    obtain ⟨generation, due, htimer, _⟩ := hwaits
    simp [Scheduler.armedDelay?, htimer]
  refine ⟨?_, fun _ => (Ledger.find?_eq_some_iff.1 h.followed.live).1,
    fun _ => h.followed.isSubscribed hs, ?_, ?_, ?_⟩
  · intro hreceived
    rw [h.owed] at hreceived
    cases hreceived
  · intro delay harm hlong
    simp only [Timed, harm] at htimed
    rcases htimed with hwaits | ⟨hzero, _⟩
    · exact hdelay delay hwaits
    · exact absurd hzero hlong
  · intro harm delay hmem
    simp only [Timed, harm] at htimed
    rcases htimed with hwaits | ⟨_, htimers⟩
    · rw [hdelay 0 hwaits] at hmem
      exact (Option.mem_some_iff.1 hmem).symm
    · obtain ⟨timer, htimer, rfl⟩ := Option.map_eq_some_iff.1 hmem
      exact htimers timer htimer
  · intro hcancel
    simp only [Timed, hcancel] at htimed
    simp [Scheduler.armedDelay?, htimed]

/-- When nothing is left to do, what was to be seen is applied. -/
theorem Taking.appliedLast (h : s.Taking r stream) (hs : s.Coherent)
    (hidle : s.idle = true) :
    s.AppliedLast r stream.status := by
  cases h with
  | pending cursor h hunseen =>
    obtain ⟨task, hcursor⟩ := h.follower
    have hsight : s.source.unseen? cursor = some stream :=
      StatusSource.unseen?_eq_some_iff.2
        ⟨StatusSource.stream?_of_open? h.opened, hunseen⟩
    rw [(follow_of_idle hidle hcursor).2.1] at hsight
    cases hsight
  | upheld cursor h =>
    have hlast := h.appliedLast hs
    exact ⟨hlast.delivered, hlast.record, hlast.followed, hlast.armed,
      hlast.instant, hlast.unarmed⟩
  | delivered hreceived h =>
    have hcancel :=
      DeliveryStatus.timer_classify_of_isReceived s.config hreceived
    refine ⟨fun _ => h, ?_, ?_, ?_, ?_,
      fun _ => by simp [Scheduler.armedDelay?, h.timer]⟩
    · intro howed
      rw [hreceived] at howed
      cases howed
    · intro howed
      rw [hreceived] at howed
      cases howed
    · intro delay harm
      rw [hcancel] at harm
      cases harm
    · intro harm
      rw [hcancel] at harm
      cases harm

/-- A message is registered, and nothing comes from outside until no task has
anything to do.  If its record has a received status, nothing is left of it.
Else, if nobody who follows it has seen the status of the source already or is
on another stream, it is as if that status had been applied last.  But if
somebody who follows it has seen the status of the source, it is as if the
status of the record had been applied last; and if it is forsaken, nobody
follows it. -/
theorem source_takes_over (hs : s.Reachable) (hrunning : s.shutDown = false)
    (hfresh : r.isExpired s.calendar = false) {status : DeliveryStatus}
    (hheld : s.source.status? r.id = some status) (settling : List Event)
    (hinternal : ∀ e ∈ settling, e.isInternal = true)
    (hidle : (s.run (.register r :: settling)).idle = true) :
    (r.status.isReceived = true →
      (s.run (.register r :: settling)).Forgotten r.id) ∧
      (r.status.isReceived = false → s.Heeds r →
        (s.run (.register r :: settling)).AppliedLast r status) ∧
      (r.status.isReceived = false → s.HasSeen r.id →
        (s.run (.register r :: settling)).AppliedLast r r.status) ∧
      (r.status.isReceived = false → s.Forsaken r.id →
        (s.run (.register r :: settling)).isSubscribed r.id = false) := by
  have hregistered := hs.step (.register r)
  have hcoherent := hregistered.coherent
  have hsettled := (hregistered.run settling).coherent
  refine ⟨?_, ?_, ?_, ?_⟩
  · intro hreceived
    have hforgotten : (s.step (.register r)).Forgotten r.id :=
      (Applies.register r hrunning).forgotten hreceived
    refine hforgotten.run hcoherent.ledger.keyed fun r' hr' => ?_
    have hregisters := hinternal (.register r') hr'
    cases hregisters
  · intro howed hheeds
    obtain ⟨stream, hcurrent, rfl⟩ := Option.map_eq_some_iff.1 hheld
    have htaking :=
      taking_of_register hs.coherent hrunning hfresh howed hcurrent hheeds
    exact (htaking.run hcoherent hinternal).appliedLast hsettled hidle
  · intro howed hseen
    obtain ⟨cursor, stream, hupheld⟩ :=
      upheld_of_register hs.coherent hrunning hfresh howed hseen
    exact (hupheld.run hcoherent hinternal).appliedLast hsettled
  · intro howed hforsaken
    have hdeserted := deserted_of_register hs.coherent hrunning howed hforsaken
    have hnobody :=
      (hdeserted.run hregistered hinternal).unfollowed hsettled hidle
    rw [isSubscribed, Table.contains_eq]
    exact congrArg Option.isSome hnobody

/-- A service that has heard that a message failed, which is not registered
yet. -/
def informed (config : ResendConfig) : Service :=
  (Service.new config .empty default 0).run
    [.start, .report ⟨"m1"⟩ .failed, .resume 0 true]

theorem reachable_informed (config : ResendConfig) :
    (informed config).Reachable :=
  ⟨_, _, fresh_new config none 0 default 0, Ledger.keyed_empty, rfl⟩

/-- The message is registered as sent and has failed when nothing is left to
do. -/
theorem source_takes_over_informed :
    ((informed .standard).run
      [.register (.waiting ⟨"m1"⟩), .resume 1 true, .resume 1 true,
      .resume 2 true, .resume 2 true, .resume 2 true]).AppliedLast
        (.waiting ⟨"m1"⟩) .failed := by
  have hrunning : (informed .standard).shutDown = false := by decide +kernel
  have hfresh : (Record.waiting ⟨"m1"⟩).isExpired
      (informed .standard).calendar = false := by
    decide +kernel
  have hheld : (informed .standard).source.status? (Record.waiting ⟨"m1"⟩).id =
      some .failed := by
    decide +kernel
  refine (source_takes_over (reachable_informed .standard) hrunning hfresh hheld
    [.resume 1 true, .resume 1 true, .resume 2 true, .resume 2 true,
      .resume 2 true]
    (by decide) (by decide +kernel)).2.1 (by decide) ?_
  have hunfollowed : (informed .standard).subscriptions = .empty := by
    decide +kernel
  intro task cursor hfollower
  simp [hunfollowed] at hfollower

/-- Whether a message is, when nothing is left to do after its registration, not
as it would be if the status of the source had been applied last. -/
def passesOver (s : Service) (r : Record) (settling : List Event) : Bool :=
  let after := s.run (.register r :: settling)
  (s.source.status? r.id).any fun status =>
    !s.shutDown && !r.isExpired s.calendar && settling.all Event.isInternal &&
      after.atRest &&
      if status.isReceived then
        after.ledger.contains r.id || (after.attempts? r.id).isSome ||
          after.scheduler.isArmed r.id || after.isSubscribed r.id
      else
        after.ledger.get? r.id ≠ some (r.withStatus status) ||
          !after.isSubscribed r.id ||
          after.scheduler.armedDelay? r.id ≠
            match (status.classify s.config).timer with
            | .arm delay => some delay
            | .cancel => none

/-- A service that keeps the record of a message under the id of another. -/
def crossed : Service :=
  .new .standard
    (.restored (some ⟨.ofList [(⟨"m1"⟩, .waiting ⟨"m2"⟩)], .empty⟩) 0) default 0

/-- The status of the source does not take over if the message is registered as
delivered, if its timer is to wait for no time, if another message has its
record, if the follower has seen the status before, and if the follower is still
on a stream that has ended. -/
theorem source_passed_over :
    (∀ config, (informed config).Reachable) ∧
    (informed .standard).passesOver
      ((Record.waiting ⟨"m1"⟩).withStatus .ackReceived)
      [.resume 1 true, .resume 1 true] = true ∧
    (informed { failedResendInterval := 0 }).passesOver (.waiting ⟨"m1"⟩)
      [.resume 1 true, .resume 1 true, .resume 2 true, .resume 2 true,
        .resume 2 true, .wake 1, .resume 3 true, .resume 3 true,
        .resume 3 true] = true ∧
    crossed.Fresh ∧
    (crossed.run
      [.report ⟨"m1"⟩ .failed, .report ⟨"m2"⟩ .sent, .start]).passesOver
      (.waiting ⟨"m2"⟩) [.resume 2 true, .resume 2 true, .resume 0 true,
        .resume 0 true, .resume 0 true] = true ∧
    following.Reachable ∧
    following.passesOver ((Record.waiting ⟨"m1"⟩).withStatus .failed)
      [.resume 3 true, .resume 3 true] = true ∧
    (following.run
      [.forget ⟨"m1"⟩, .report ⟨"m1"⟩ .sent, .resume 0 true]).Reachable ∧
    (following.run [.forget ⟨"m1"⟩, .report ⟨"m1"⟩ .sent,
      .resume 0 true]).passesOver ((Record.waiting ⟨"m1"⟩).withStatus .failed)
      [.resume 3 true, .resume 3 true, .resume 2 true] = true :=
  ⟨reachable_informed, by decide +kernel, by decide +kernel,
    fresh_new _ _ _ _ _, by decide +kernel,
    reachable_following, by decide +kernel,
    reachable_following.run _, by decide +kernel⟩

end Service

end Redelivery
