import Mathlib.Data.List.Induction
import Redelivery.Proofs.Resend.Followers

/-!
# Followed records agree with the source

A cursor that has seen its stream as far as it goes stands for a record with the
status of that stream.  Beginning to follow a message and applying a status make
it so, a report gives the cursor something to see, and only a registration of a
message that is followed already can put another status in the place of the one
that was seen.
-/

namespace Redelivery.Service

variable {s t u : Service} {e : Event} {id : MessageId} {task : Nat}
  {routine : Routine}
  {c : StatusCursor}

/-! ## Cursors that have seen all that there is -/

/-- If a cursor has seen its open stream as far as it goes, the record has the
status of the stream. -/
def CaughtUp (s : Service) (c : StatusCursor) : Prop :=
  ∀ stream, s.source.open? c = some stream → c.seen = some stream.version →
    ∃ r, s.ledger.get? c.id = some r ∧ r.status = stream.status

theorem CaughtUp.congr (hs : s.CaughtUp c)
    (hopen : t.source.open? c = s.source.open? c)
    (hrecord : t.ledger.get? c.id = s.ledger.get? c.id) : t.CaughtUp c := by
  intro stream hstream hseen
  rw [hopen] at hstream
  rw [hrecord]
  exact hs stream hstream hseen

/-- A cursor with something left to see stands for nothing yet. -/
theorem caughtUp_of_unseen {stream : StatusStream}
    (hunseen : s.source.unseen? c = some stream) :
    s.CaughtUp c := by
  intro stream' hopen hseen
  obtain ⟨hstream, hlater⟩ := StatusSource.unseen?_eq_some_iff.1 hunseen
  rw [StatusSource.stream?_of_open? hopen] at hstream
  cases hstream
  exact absurd hseen hlater

/-- A report gives every cursor on the stream of its message something to
see. -/
theorem caughtUp_of_report (hs : s.source.Sound) (hc : s.source.Tracks c)
    {status : DeliveryStatus} (hsource : t.source = s.source.set c.id status) :
    t.CaughtUp c := by
  intro stream hstream hseen
  have ⟨before, hbefore, _⟩ := hc
  have hold := StatusSource.lt_nextStream_of_stream? hs hbefore
  rw [hsource, StatusSource.open?_set hold, if_pos rfl] at hstream
  obtain ⟨reported, hreported, rfl⟩ := Option.map_eq_some_iff.1 hstream
  exact absurd hseen (hc.unseen_later (StatusSource.stream?_of_open? hreported))

theorem caughtUp_firstCursor {stream : StatusStream}
    (hcurrent : s.source.current.get? id = some stream) :
    s.CaughtUp (s.firstCursor id stream) := by
  intro stream' hopen hseen
  obtain ⟨hcurrent', -⟩ := StatusSource.open?_eq_some_iff.1 hopen
  rw [firstCursor_id, hcurrent] at hcurrent'
  cases hcurrent'
  unfold firstCursor at hseen
  dsimp only at hseen
  split at hseen
  next hknown =>
    obtain ⟨r, hrecord, hstatus⟩ := (Option.any_eq_true _ _).1 hknown
    exact ⟨r, (Ledger.find?_eq_some_iff.1 hrecord).1, by simpa using hstatus⟩
  next => cases hseen

/-! ## Cursors of new tasks -/

/-- Tasks begin to follow messages, each with a cursor that stands for the
record. -/
structure Welcomes (s t : Service) : Prop where
  source : t.source = s.source
  ledger : t.ledger = s.ledger
  cursors : ∀ task c, t.cursor? task = some c →
    s.cursor? task = some c ∨ s.CaughtUp c

theorem Welcomes.of_same (hsource : t.source = s.source)
    (hledger : t.ledger = s.ledger) (htasks : t.tasks = s.tasks) :
    s.Welcomes t := by
  refine ⟨hsource, hledger, fun task c hcursor => ?_⟩
  left
  rwa [cursor?, htasks] at hcursor

theorem welcomes_refl (s : Service) : s.Welcomes s :=
  .of_same rfl rfl rfl

theorem Welcomes.trans (hst : s.Welcomes t) (htu : t.Welcomes u) :
    s.Welcomes u where
  source := htu.source.trans hst.source
  ledger := htu.ledger.trans hst.ledger
  cursors := by
    intro task c hcursor
    rcases htu.cursors task c hcursor with hbefore | hcaught
    · exact hst.cursors task c hbefore
    · exact .inr (hcaught.congr (by rw [hst.source]) (by rw [hst.ledger]))

theorem welcomes_spawn (s : Service) (hnone : routine.cursor? = none) :
    s.Welcomes (s.spawn routine) := by
  refine ⟨by simp, by simp, fun task c hcursor => ?_⟩
  rw [cursor?_spawn] at hcursor
  split at hcursor
  next =>
    rw [hnone] at hcursor
    cases hcursor
  next => exact .inl hcursor

theorem welcomes_attach (s : Service) (id : MessageId) :
    s.Welcomes (s.attach id) := by
  rcases attach_cases s id with ⟨hsame, _⟩ | ⟨stream, _, _, hcurrent, hattach⟩
  · rw [hsame]
    exact s.welcomes_refl
  · rw [hattach]
    refine ⟨by simp, by simp, fun task c hcursor => ?_⟩
    change (s.spawn (.follow (s.firstCursor id stream))).cursor? task = some c
      at hcursor
    rw [cursor?_spawn] at hcursor
    split at hcursor
    next =>
      cases hcursor
      exact .inr (caughtUp_firstCursor hcurrent)
    next => exact .inl hcursor

theorem welcomes_attachTracked (s : Service) (id : MessageId) :
    s.Welcomes (s.attachTracked id) :=
  attachTracked_elim s.welcomes_refl fun _ => s.welcomes_attach id

theorem welcomes_attachKnown (s : Service) : s.Welcomes s.attachKnown :=
  attachKnown_induction s.welcomes_refl fun t id ht =>
    ht.trans (t.welcomes_attachTracked id)

theorem welcomes_begun (s : Service) : s.Welcomes s.begun := by
  refine List.foldlRecOn (motive := fun t => s.Welcomes t) _ launch ?_ ?_
  · have hstarted : s.Welcomes { s with started := true } :=
      .of_same rfl rfl rfl
    exact hstarted.trans (welcomes_attachKnown _)
  · intro t ht routine hroutine
    have hspawned :=
      ht.trans (t.welcomes_spawn (s.cursor?_observers routine hroutine))
    exact hspawned.trans (.of_same rfl rfl rfl)

theorem Welcomes.cursor_cases (hst : s.Welcomes t)
    (hcursor : t.cursor? task = some c) :
    s.cursor? task = some c ∨ t.CaughtUp c := by
  rcases hst.cursors task c hcursor with hbefore | hcaught
  · exact .inl hbefore
  · exact .inr (hcaught.congr (by rw [hst.source]) (by rw [hst.ledger]))

/-- A task that has applied a status to a record has seen no other one since. -/
theorem Hears.caughtUp {seen : StatusCursor} {status : DeliveryStatus}
    {r : Record} (hhears : s.Hears task c seen status r)
    (hkeyed : s.ledger.Keyed) (howed : status.isReceived = false) :
    (s.apply (r.withStatus status) (some task)).CaughtUp seen := by
  have hid : r.id = c.id := hhears.id_eq hkeyed
  have hsight := hhears.sighted
  intro stream hopen _
  simp only [apply_frame, StatusSource.open?_of_next_eq_changed hsight] at hopen
  obtain ⟨found, hunseen, rfl, rfl⟩ := StatusSource.next_eq_changed_iff.1 hsight
  obtain ⟨hfound, -⟩ := StatusSource.unseen?_eq_some_iff.1 hunseen
  rw [StatusSource.stream?_of_open? hopen] at hfound
  cases hfound
  refine ⟨r.withStatus stream.status, ?_, rfl⟩
  have howed : (r.withStatus stream.status).status.isReceived = false := howed
  rw [ledger_apply, howed]
  exact (Ledger.get?_upsert _ _ _).trans (if_pos hid.symm)

/-- A cursor is one that was there, or stands for the record. -/
theorem Transition.cursor?_or_caughtUp (htransition : Transition s e t)
    (hkeyed : s.ledger.Keyed) (hcursor : t.cursor? task = some c) :
    s.cursor? task = some c ∨ t.CaughtUp c := by
  cases htransition with
  | start => exact s.welcomes_begun.cursor_cases hcursor
  | shutdown hrunning =>
    left
    rw [shutdown_eq hrunning] at hcursor
    simp only [cursor?, tasks_foldl_abort] at hcursor ⊢
    split at hcursor
    next => cases hcursor
    next => exact hcursor
  | refuse => exact .inl (cursor?_of_spawn rfl hcursor)
  | sweep => exact .inl (cursor?_of_spawn rfl hcursor)
  | retire r => exact .inl (cursor?_of_spawn rfl (cursor?_of_apply hcursor))
  | enroll r =>
    rcases (welcomes_attach _ r.id).cursor_cases hcursor with hbefore | hcaught
    · exact .inl (cursor?_of_spawn rfl (cursor?_of_apply hbefore))
    · exact .inr hcaught
  | resend id r claimed _ hclaim =>
    obtain ⟨_, _, _, _, rfl⟩ := claim_eq_some_iff.1 hclaim
    exact .inl (cursor?_of_spawn rfl hcursor)
  | fire generation sleeper r claimed _ _ _ _ hclaim =>
    obtain ⟨_, _, _, _, rfl⟩ := claim_eq_some_iff.1 hclaim
    exact .inl (cursor?_of_spawn rfl hcursor)
  | chore worker saved old left u hworker _ hchore =>
    left
    rw [cursor?_setRoutine] at hcursor
    split at hcursor
    next hsame =>
      rw [hsame, Service.cursor?_of_get? hworker, ← hcursor]
      cases hchore <;> simp
    next => cases hchore <;> exact hcursor
  | catchUp worker saved id rest resent watching r claimed _ _ hclaim =>
    obtain ⟨_, _, _, _, rfl⟩ := claim_eq_some_iff.1 hclaim
    have hbefore := cursor?_of_setRoutine rfl hcursor
    exact .inl hbefore
  | restate worker saved old seen status r hhears =>
    rw [cursor?_setRoutine] at hcursor
    split at hcursor
    next =>
      right
      split at hcursor
      next => cases hcursor
      next howed =>
        cases hcursor
        exact (hhears.caughtUp hkeyed (by simpa using howed)).congr
          (by simp) (by simp)
    next => exact .inl (cursor?_of_apply hcursor)
  | drop | leave =>
    have hbefore := cursor?_of_setRoutine rfl hcursor
    exact .inl hbefore
  | hear worker saved position heard id =>
    rcases (s.welcomes_attachTracked id).cursor_cases
      (cursor?_of_setRoutine rfl hcursor) with
      hbefore | hcaught
    · exact .inl hbefore
    · exact .inr (hcaught.congr (by simp) (by simp))
  | rescan =>
    rcases s.welcomes_attachKnown.cursor_cases
      (cursor?_of_setRoutine rfl hcursor) with
      hbefore | hcaught
    · exact .inl hbefore
    · exact .inr (hcaught.congr (by simp) (by simp))
  | _ => exact .inl hcursor

/-! ## Registrations that nobody hears of -/

/-- The record of a message that is followed changes only where it is
registered, or where the cursor has something to see. -/
theorem Transition.record_of_followed (htransition : Transition s e t)
    (hs : s.Coherent) (hcursor : s.cursor? task = some c)
    (hquiet : ∀ r, e = .register r → r.id ≠ c.id) :
    t.ledger.get? c.id = s.ledger.get? c.id ∨
    ∃ stream, s.source.unseen? c = some stream := by
  by_cases happlied : ∃ r, s.Applies e r ∧ r.id = c.id
  · obtain ⟨r, happlies, hid⟩ := happlied
    cases happlies with
    | register => exact absurd hid (hquiet r rfl)
    | follow worker saved other seen status r hhears =>
      have hsame : other = c := hs.eq_of_hears hcursor hhears hid
      obtain ⟨stream, hunseen, _⟩ :=
        StatusSource.next_eq_changed_iff.1 hhears.sighted
      exact .inr ⟨stream, hsame ▸ hunseen⟩
  · exact .inl (htransition.get?_of_quiet fun r happlies hid =>
      happlied ⟨r, happlies, hid⟩)

/-- A cursor that stands for the record goes on to do so, unless the message is
registered. -/
theorem Transition.caughtUp (htransition : Transition s e t) (hs : s.Coherent)
    (hattentive : s.Attentive) (hcursor : s.cursor? task = some c)
    (hcaught : s.CaughtUp c) (hquiet : ∀ r, e = .register r → r.id ≠ c.id) :
    t.CaughtUp c := by
  have hrecord := htransition.record_of_followed hs hcursor hquiet
  rcases htransition.frames.source with hsame | ⟨id, status, rfl, hset⟩ |
    ⟨id, rfl, hremove⟩
  · rcases hrecord with hkept | ⟨stream, hunseen⟩
    · exact hcaught.congr (by rw [hsame]) hkept
    · exact caughtUp_of_unseen (hsame ▸ hunseen)
  · by_cases hid : c.id = id
    · exact caughtUp_of_report hattentive.source
        (hattentive.tracking task c hcursor) (hid ▸ hset)
    · have ⟨_, hstream, _⟩ := hattentive.tracking task c hcursor
      have hold :=
        StatusSource.lt_nextStream_of_stream? hattentive.source hstream
      refine hcaught.congr ?_
        (htransition.get?_of_quiet fun r happlies => nomatch happlies)
      rw [hset, StatusSource.open?_set hold, if_neg hid]
  · intro stream hstream
    rw [hremove, StatusSource.open?_remove] at hstream
    split at hstream
    next => cases hstream
    next =>
      rw [htransition.get?_of_quiet fun r happlies => nomatch happlies]
      exact hcaught stream hstream

/-- The latest registration of a message in a run came while it was followed
already, and there was no report on it since. -/
def Overridden (start : Service) (events : List Event)
    (id : MessageId) : Prop :=
  ∃ before r after, events = before ++ .register r :: after ∧ r.id = id ∧
    (start.run before).isSubscribed id = true ∧
    (∀ r', .register r' ∈ after → r'.id ≠ id) ∧
    ∀ status, .report id status ∉ after

variable {start : Service} {events : List Event}

theorem Overridden.append (hover : start.Overridden events id)
    (hregister : ∀ r, e = .register r → r.id ≠ id)
    (hreport : ∀ status, e ≠ .report id status) :
    start.Overridden (events ++ [e]) id := by
  obtain ⟨before, r, after, rfl, hid, hfollowed, hlatest, hsilent⟩ := hover
  refine ⟨before, r, after ++ [e], by simp, hid, hfollowed, ?_, ?_⟩
  · intro r' hmem
    rcases List.mem_append.1 hmem with hearlier | hlast
    · exact hlatest r' hearlier
    · exact hregister r' (List.mem_singleton.1 hlast).symm
  · intro status hmem
    rcases List.mem_append.1 hmem with hearlier | hlast
    · exact hsilent status hearlier
    · exact hreport status (List.mem_singleton.1 hlast).symm

/-- Every cursor stands for the record of its message, unless a registration
came in between. -/
theorem caughtUp_run (hstart : start.Fresh) (hkeyed : start.ledger.Keyed)
    (events : List Event) (hcursor : (start.run events).cursor? task = some c) :
    (start.run events).CaughtUp c ∨ start.Overridden events c.id := by
  induction events using List.reverseRecOn generalizing task c with
  | nil => simp [cursor?, hstart.tasks] at hcursor
  | append_singleton events e ih =>
    have hcoherent := (hstart.coherent hkeyed).run events
    have hattentive := hstart.attentive.run events
    have htransition := transition_step (start.run events) e
    rw [← run_concat] at htransition
    rcases htransition.cursor?_or_caughtUp hcoherent.ledger.keyed hcursor
      with hbefore | hcaught
    · by_cases hregister : ∃ r, e = .register r ∧ r.id = c.id
      · obtain ⟨r, rfl, hid⟩ := hregister
        have hfollowed : (start.run events).isSubscribed c.id = true := by
          simp [isSubscribed, Table.contains_eq, hcoherent.follows hbefore]
        exact .inr ⟨events, r, [], rfl, hid, hfollowed, by simp, by simp⟩
      · have hquiet : ∀ r, e = .register r → r.id ≠ c.id :=
          fun r he hid => hregister ⟨r, he, hid⟩
        by_cases hreport : ∃ status, e = .report c.id status
        · obtain ⟨status, rfl⟩ := hreport
          left
          rw [run_concat]
          exact caughtUp_of_report hattentive.source
            (hattentive.tracking task c hbefore) rfl
        · rcases ih hbefore with hcaught | hover
          · exact .inl
              (htransition.caughtUp hcoherent hattentive hbefore hcaught hquiet)
          · exact .inr
              (hover.append hquiet fun status he => hreport ⟨status, he⟩)
    · exact .inl hcaught

def loaded : Service :=
  .new .standard
    (.restored (some (Ledger.empty.upsert (.waiting ⟨"m1"⟩))) 5) default 5

/-- The message of a loaded record is reported on twice before anybody looks. -/
def overtaken : List Event :=
  [.start, .report ⟨"m1"⟩ .connecting, .report ⟨"m1"⟩ .failed, .resume 0 true,
    .resume 1 true, .resume 1 true, .resume 1 true]

end Redelivery.Service
