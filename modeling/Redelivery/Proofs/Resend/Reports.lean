import Redelivery.Proofs.Resend.Delivery
import Redelivery.Proofs.Resend.Followers

/-!
# A reported delivery reaches the ledger

A task that follows a message sees the latest status only.  A delivery that is
reported is applied when the task comes to its turn, if nothing has come in
between that hides it: another status, the end of the record's life or the end
of the service.
-/

namespace Redelivery

/-- What hides a delivery that was reported for a record and is not applied
yet. -/
def Event.Obscures (r : Record) : Event → Prop
  | .report id status => id = r.id ∧ status.isReceived = false
  | .setCalendar now => r.isExpired now = true
  | .shutdown => True
  | _ => False

namespace Service

variable {s : Service} {e : Event} {r : Record}

/-- A delivery is reported for a message with a live record, and the task that
follows the message has not seen it yet. -/
structure Reported (s : Service) (r : Record) : Prop where
  running : s.shutDown = false
  live : s.record? r.id = some r
  unseen : ∃ task cursor, s.cursor? task = some cursor ∧ cursor.id = r.id ∧
    s.source.Delivers cursor

theorem Reported.isSubscribed (hs : s.Reported r) (hcoherent : s.Coherent) :
    s.isSubscribed r.id = true := by
  obtain ⟨task, cursor, hcursor, hid, _⟩ := hs.unseen
  have hfollower := hcoherent.follows hcursor
  rw [hid] at hfollower
  simp [Service.isSubscribed, Table.contains_eq, hfollower]

/-- A report of a delivery to a task on the current stream. -/
theorem reported_of_report (hattentive : s.Attentive)
    (hrunning : s.shutDown = false) (hlive : s.record? r.id = some r)
    {task : Nat} {cursor : StatusCursor}
    (hcursor : s.cursor? task = some cursor) (hid : cursor.id = r.id)
    (hopen : (s.source.open? cursor).isSome = true) {status : DeliveryStatus}
    (hreceived : status.isReceived = true) :
    (s.step (.report r.id status)).Reported r where
  running := hrunning
  live := hlive
  unseen := by
    have hdelivers :=
      (hattentive.tracking task cursor hcursor).delivers_of_open?
        hattentive.source hopen hreceived
    rw [hid] at hdelivers
    exact ⟨task, cursor, hcursor, hid, hdelivers⟩

/-- A record that is applied to the message has the status that was reported. -/
theorem Reported.forgotten (hs : s.Reported r) (hcoherent : s.Coherent)
    (hregister : ∀ r', e = .register r' → r'.id ≠ r.id) {r' : Record}
    (happlies : s.Applies e r') (hsame : r'.id = r.id) :
    (s.step e).Forgotten r.id := by
  obtain ⟨task, cursor, hcursor, hid, stream, hsight, hreceived⟩ := hs.unseen
  rw [← hsame]
  apply happlies.forgotten
  cases happlies with
  | register => exact absurd hsame (hregister r' rfl)
  | follow task' saved cursor' seen status r'' hhears =>
    have hown : r''.id = cursor.id := hsame.trans hid.symm
    rw [hcoherent.eq_of_hears hcursor hhears hown] at hhears
    obtain ⟨stream', hsight', hstatus, _⟩ :=
      StatusSource.next_eq_changed_iff.1 hhears.sighted
    rw [hsight] at hsight'
    cases hsight'
    rw [← hstatus]
    exact hreceived

theorem Reported.live_step (hs : s.Reported r)
    (hquiet : ∀ r', s.Applies e r' → r'.id ≠ r.id) (hclear : ¬ e.Obscures r) :
    (s.step e).record? r.id = some r := by
  have htransition := transition_step s e
  have hlive := Ledger.find?_eq_some_iff.1 hs.live
  refine Ledger.find?_eq_some_iff.2 ⟨?_, ?_⟩
  · rw [htransition.get?_of_quiet hquiet, hlive.1]
  · rcases htransition.frames.calendar with hsame | hcalendar
    · rw [hsame]
      exact hlive.2
    · rw [hcalendar] at hclear
      exact Bool.eq_false_iff.2 hclear

theorem delivers_step (hattentive : s.Attentive) (hclear : ¬ e.Obscures r)
    {task : Nat} {cursor : StatusCursor}
    (hcursor : s.cursor? task = some cursor) (hid : cursor.id = r.id)
    (hdelivers : s.source.Delivers cursor) :
    (s.step e).source.Delivers cursor := by
  have htracks := hattentive.tracking task cursor hcursor
  rcases (transition_step s e).frames.source with
    hsame | ⟨id, status, he, hset⟩ | ⟨id, _, hremove⟩
  · rwa [hsame]
  · rw [hset]
    apply hdelivers.set hattentive.source htracks
    intro hown
    rw [he] at hclear
    cases hdelivered : status.isReceived with
    | true => rfl
    | false => exact absurd ⟨hown.symm.trans hid, hdelivered⟩ hclear
  · rw [hremove]
    exact hdelivers.remove hattentive.source id

/-- The task that is to see the delivery keeps its cursor until it applies a
status. -/
theorem Reported.cursor?_step (hs : s.Reported r) (hcoherent : s.Coherent)
    (hrunning : (s.step e).shutDown = false)
    (hquiet : ∀ r', s.Applies e r' → r'.id ≠ r.id) {task : Nat}
    {cursor : StatusCursor} (hcursor : s.cursor? task = some cursor)
    (hid : cursor.id = r.id) (hdelivers : s.source.Delivers cursor) :
    (s.step e).cursor? task = some cursor := by
  rcases (transition_step s e).cursor?_of_get? hcoherent hcursor with
    hkept | hshut | ⟨r', happlies, hsame⟩ | hclosed | hnone
  · exact hkept
  · rw [hrunning] at hshut
    cases hshut
  · exact absurd (hsame.trans hid) (hquiet r' happlies)
  · obtain ⟨stream, hsight, _⟩ := hdelivers
    rw [StatusSource.next_of_unseen? hsight] at hclosed
    cases hclosed
  · rw [hid, hs.live] at hnone
    cases hnone

/-- The task applies the delivery, or it is still to be seen. -/
theorem Reported.step (hs : s.Reported r) (hcoherent : s.Coherent)
    (hattentive : s.Attentive)
    (hregister : ∀ r', e = .register r' → r'.id ≠ r.id)
    (hclear : ¬ e.Obscures r) :
    (s.step e).Reported r ∨ (s.step e).Forgotten r.id := by
  by_cases happlied : ∃ r', s.Applies e r' ∧ r'.id = r.id
  · obtain ⟨r', happlies, hsame⟩ := happlied
    exact .inr (hs.forgotten hcoherent hregister happlies hsame)
  left
  have hquiet : ∀ r', s.Applies e r' → r'.id ≠ r.id := fun r' happlies hsame =>
    happlied ⟨r', happlies, hsame⟩
  have hrunning : (s.step e).shutDown = false := by
    rcases (transition_step s e).frames.shutDown with hsame | rfl
    · rw [hsame, hs.running]
    · exact absurd trivial hclear
  obtain ⟨task, cursor, hcursor, hid, hdelivers⟩ := hs.unseen
  have hkept := hs.cursor?_step hcoherent hrunning hquiet hcursor hid hdelivers
  have hafter := delivers_step hattentive hclear hcursor hid hdelivers
  exact ⟨hrunning, hs.live_step hquiet hclear, task, cursor, hkept, hid, hafter⟩

/-- When nothing is left to do, no reported delivery is left to be seen. -/
theorem Reported.not_atRest (hs : s.Reported r) : s.atRest = false := by
  apply Bool.eq_false_iff.2
  intro hrest
  obtain ⟨task, cursor, hcursor, _, stream, hsight, _⟩ := hs.unseen
  rw [(follow_of_atRest hrest hcursor).2.1] at hsight
  cases hsight

/-! ## Runs after a report -/

/-- As long as the message is followed, nothing hides the delivery in a run. -/
def Unobscured (s : Service) (r : Record) (events : List Event) : Prop :=
  ∀ first e rest, events = first ++ e :: rest →
    (s.run first).isSubscribed r.id = true → ¬ e.Obscures r

theorem unobscured_of_forall {events : List Event}
    (hclear : ∀ e ∈ events, ¬ e.Obscures r) :
    s.Unobscured r events := by
  rintro first e rest rfl _
  exact hclear e (by simp)

theorem Reported.run (hs : s.Reported r) (hreachable : s.Reachable)
    {events : List Event}
    (hregister : ∀ r', .register r' ∈ events → r'.id ≠ r.id)
    (hclear : s.Unobscured r events) :
    (s.run events).Reported r ∨ (s.run events).Forgotten r.id := by
  induction events generalizing s with
  | nil => exact .inl hs
  | cons e rest ih =>
    have hcoherent := hreachable.coherent
    have hhead : ∀ r', e = .register r' → r'.id ≠ r.id := by
      rintro r' rfl
      exact hregister r' (by simp)
    have htail : ∀ r', .register r' ∈ rest → r'.id ≠ r.id := fun r' hr' =>
      hregister r' (List.mem_cons_of_mem _ hr')
    have hfirst : ¬ e.Obscures r :=
      hclear [] e rest rfl (hs.isSubscribed hcoherent)
    rcases hs.step hcoherent hreachable.attentive hhead hfirst with hreported |
      hforgotten
    · apply ih hreported (hreachable.step e) htail
      intro first e' rest' hsplit
      exact hclear (e :: first) e' rest' (by rw [hsplit]; rfl)
    · exact .inr
        (hforgotten.run (hreachable.step e).coherent.ledger.keyed htail)

/-- A delivery that the source is told of, for a message with a live record that
is followed on the current stream, is applied by the time that nothing is left
to do, unless something hides it as long as the message is followed; and nothing
brings the message back after that but its registration. -/
theorem forgotten_of_reported (hs : s.Reachable) (hrunning : s.shutDown = false)
    (hlive : s.record? r.id = some r) {task : Nat} {cursor : StatusCursor}
    (hfollower : s.subscriptions.get? r.id = some task)
    (hcursor : s.cursor? task = some cursor)
    (hopen : (s.source.open? cursor).isSome = true) {status : DeliveryStatus}
    (hreceived : status.isReceived = true) (settling later : List Event)
    (hregister : ∀ r', .register r' ∈ settling ++ later → r'.id ≠ r.id)
    (hclear : (s.step (.report r.id status)).Unobscured r settling)
    (hrest : ((s.step (.report r.id status)).run settling).atRest = true) :
    (((s.step (.report r.id status)).run settling).run later).Forgotten r.id ∧
      ∀ bound sweeping,
        (((s.step (.report r.id status)).run settling).run later).claim r.id
          bound sweeping =
          none := by
  have hid := hs.coherent.id_of_follower hfollower hcursor
  have hreported :=
    reported_of_report hs.attentive hrunning hlive hcursor hid hopen hreceived
  have hreachable := hs.step (.report r.id status)
  have hsettling : ∀ r', .register r' ∈ settling → r'.id ≠ r.id := fun r' hr' =>
    hregister r' (List.mem_append_left _ hr')
  have hlater : ∀ r', .register r' ∈ later → r'.id ≠ r.id := fun r' hr' =>
    hregister r' (List.mem_append_right _ hr')
  have hsettled :
      ((s.step (.report r.id status)).run settling).Forgotten r.id := by
    rcases hreported.run hreachable hsettling hclear with hunseen | hforgotten
    · rw [hunseen.not_atRest] at hrest
      cases hrest
    · exact hforgotten
  have hforgotten :=
    hsettled.run (hreachable.run settling).coherent.ledger.keyed hlater
  exact ⟨hforgotten, fun bound sweeping =>
    claim_eq_none_of_record? hforgotten.record?⟩

/-- A failure that is reported after the delivery was applied changes
nothing. -/
theorem forgotten_of_reported_following :
    (((following.step (.report ⟨"m1"⟩ .ackReceived)).run
      [.resume 2 true, .resume 2 true,
      .resume 2 true]).run [.report ⟨"m1"⟩ .failed, .sweep,
        .resend ⟨"m1"⟩]).Forgotten ⟨"m1"⟩ := by
  have hlive : following.record? ⟨"m1"⟩ = some (.waiting ⟨"m1"⟩) := by
    decide +kernel
  have hfollower : following.subscriptions.get? ⟨"m1"⟩ = some 2 := by
    decide +kernel
  have hcursor : following.cursor? 2 = some ⟨⟨"m1"⟩, 0, some 0⟩ := by
    decide +kernel
  have hreceived : DeliveryStatus.ackReceived.isReceived = true := rfl
  have hrest :
      ((following.step (.report ⟨"m1"⟩ .ackReceived)).run [.resume 2 true,
      .resume 2 true, .resume 2 true]).atRest = true := by decide +kernel
  refine (forgotten_of_reported (r := .waiting ⟨"m1"⟩) reachable_following
    (by decide +kernel) hlive hfollower hcursor
    (by decide +kernel) hreceived _ _ ?_ ?_ hrest).1
  · intro r' hr'
    simp at hr'
  · apply unobscured_of_forall
    intro e he
    simp only [List.mem_cons, List.not_mem_nil, or_false] at he
    rcases he with rfl | rfl | rfl <;> exact id

/-- Whether a running service follows a message, is told of its delivery, and
still has a record of it when nothing is left to do after some events. -/
def overlooks (s : Service) (id : MessageId) (events : List Event) : Bool :=
  s.started && !s.shutDown && s.ledger.contains id && s.isSubscribed id &&
    (s.run (.report id .ackReceived :: events)).atRest &&
    (s.run (.report id .ackReceived :: events)).ledger.contains id

/-- A delivery is lost if a failure is reported before the task has seen it, if
the record has expired, if the task is still on a stream that has ended, and if
the record stands under another id than its own. -/
theorem delivery_lost :
    following.overlooks ⟨"m1"⟩
      [.report ⟨"m1"⟩ .failed, .resume 2 true, .resume 2 true,
      .resume 2 true] = true ∧
    (following.step (.setCalendar 200)).overlooks ⟨"m1"⟩ [.resume 2 true] =
      true ∧
    (following.run
      [.forget ⟨"m1"⟩, .report ⟨"m1"⟩ .sent, .resume 0 true]).overlooks ⟨"m1"⟩
      [.resume 2 true] = true ∧
    misplaced.overlooks ⟨"a"⟩ [.resume 0 true, .resume 0 true, .resume 0 true] =
      true := by
  decide +kernel

end Service

end Redelivery
