import Redelivery.Proofs.Resend.Runs

/-!
# A delivered message stays delivered

Once a received status is applied, nothing is left of the message: no record, no
counter, no timer and no subscription.  Reports, timers, sweeps and requests
that come later find no record and so bring nothing back; what may still be sent
was claimed before.
-/

namespace Redelivery.Service

variable {s t : Service} {e : Event} {id : MessageId} {r : Record}

/-- Nothing is left of a message. -/
structure Forgotten (s : Service) (id : MessageId) : Prop where
  record : s.ledger.get? id = none
  counter : s.ledger.attempts? id = none
  timer : s.scheduler.timers.get? id = none
  subscription : s.subscriptions.get? id = none

theorem Forgotten.record? (hs : s.Forgotten id) : s.record? id = none := by
  simp [Service.record?, Ledger.find?, hs.record]

/-! ## What a received status leaves -/

theorem forgotten_apply (hrunning : s.shutDown = false)
    (hreceived : r.status.isReceived = true) (origin : Option Nat) :
    (s.apply r origin).Forgotten r.id where
  record := by
    rw [ledger_apply, if_pos hreceived]
    simp
  counter := by
    rw [ledger_apply, if_pos hreceived]
    simp
  timer := by
    rw [scheduler_apply hrunning,
      DeliveryStatus.timer_classify_of_isReceived _ hreceived]
    simp
  subscription := by
    rw [subscriptions_apply, if_pos hreceived]
    simp

theorem step_register_of_isReceived (hrunning : s.shutDown = false)
    (hreceived : r.status.isReceived = true) :
    s.step (.register r) = (s.spawn (.save (.answer 0))).apply r none := by
  simp [step, register, hrunning, DeliveryStatus.detach_classify, hreceived]

theorem step_of_hears {task : Nat} {cursor seen : StatusCursor}
    {status : DeliveryStatus} (hhears : s.Hears task cursor seen status r)
    (saved : Bool) :
    s.step (.resume task saved) =
      (s.apply (r.withStatus status) (some task)).setRoutine task
        (.save (if status.isReceived then .stop else .follow seen)) := by
  obtain ⟨stream, hunseen, _, rfl⟩ :=
    StatusSource.next_eq_changed_iff.1 hhears.sighted
  have hready : s.isReady (.follow cursor) = true := by simp [isReady, hunseen]
  simp only [step, resume, hhears.following, hready, if_true, work_follow,
    hhears.sighted, onStatus, hhears.running, hhears.current, hhears.live,
    DeliveryStatus.detach_classify]
  simp

theorem Applies.forgotten (happlies : s.Applies e r)
    (hreceived : r.status.isReceived = true) :
    (s.step e).Forgotten r.id := by
  cases happlies with
  | register r hrunning =>
    rw [step_register_of_isReceived hrunning hreceived]
    exact forgotten_apply (s := s.spawn (.save (.answer 0))) hrunning
      hreceived none
  | follow task saved cursor seen status r hhears =>
    rw [step_of_hears hhears]
    have happlied := forgotten_apply hhears.running hreceived (some task)
    exact ⟨by simpa using happlied.record, by simpa using happlied.counter,
      by simpa using happlied.timer, by simpa using happlied.subscription⟩

/-! ## Nothing brings it back -/

/-- Where nothing is left of a message, only its registration applies a record
to it. -/
theorem Forgotten.quiet (hs : s.Forgotten id) (hkeyed : s.ledger.Keyed)
    (hregister : ∀ r, e = .register r → r.id ≠ id) (r : Record)
    (happlies : s.Applies e r) :
    r.id ≠ id := by
  cases happlies with
  | register r hrunning => exact hregister r rfl
  | follow task saved cursor seen status r hhears =>
    have hid : r.id = cursor.id := hhears.id_eq hkeyed
    intro hsame
    have hcursor : cursor.id = id := hid.symm.trans hsame
    have hlive := hhears.live
    rw [hcursor, hs.record?] at hlive
    cases hlive

theorem Forgotten.transition (hs : s.Forgotten id) (hkeyed : s.ledger.Keyed)
    (hregister : ∀ r, e = .register r → r.id ≠ id)
    (htransition : Transition s e t) :
    t.Forgotten id := by
  have hquiet := hs.quiet hkeyed hregister
  have hnone : ¬ (s.record? id).isSome = true := by simp [hs.record?]
  refine ⟨?_, ?_, ?_, ?_⟩
  · rw [htransition.get?_of_quiet hquiet, hs.record]
  · rcases htransition.attempts?_of_quiet hquiet with hsame | hlive
    · rw [hsame, hs.counter]
    · exact absurd hlive hnone
  · rcases htransition.timers_of_quiet hquiet with hsame | hgone
    · rw [hsame, hs.timer]
    · exact hgone
  · rcases htransition.subscriptions_of_quiet hquiet with hsame | hgone | hlive
    · rw [hsame, hs.subscription]
    · exact hgone
    · exact absurd hlive hnone

theorem Transition.keyed (htransition : Transition s e t)
    (hkeyed : s.ledger.Keyed) :
    t.ledger.Keyed := by
  rcases htransition.ledger_cases with hsame | ⟨r, _, hledger⟩ |
    ⟨id, n, _, hledger⟩
  · rwa [hsame]
  · rw [hledger]
    split
    next => exact hkeyed.remove r.id
    next => exact hkeyed.upsert r
  · rw [hledger]
    exact hkeyed.setAttempts id n

/-! ## What may still be sent -/

def dealt (s : Service) (r : Record) : Nat :=
  (s.outbox.map Dispatch.record).count r + s.owed.count r

def owedByOthers (s : Service) (task : Nat) : List Record :=
  (s.tasks.erase task).values.flatMap Routine.owed

theorem count_owed_of_get? {task : Nat} {old : Routine}
    (htask : s.tasks.get? task = some old) (r : Record) :
    s.owed.count r = old.owed.count r + (s.owedByOthers task).count r := by
  have hperm := (Table.values_perm_of_get? htask).flatMap_right Routine.owed
  rw [owed, hperm.count_eq, List.flatMap_cons, List.count_append]
  rfl

theorem count_owedByOthers_le (s : Service) (task : Nat) (r : Record) :
    (s.owedByOthers task).count r ≤ s.owed.count r := by
  cases htask : s.tasks.get? task with
  | none =>
    rw [owedByOthers, Table.erase_of_get?_eq_none htask]
    exact Nat.le_refl _
  | some old =>
    rw [count_owed_of_get? htask]
    exact Nat.le_add_left _ _

theorem count_values_insert (s : Service) (task : Nat) (routine : Routine)
    (r : Record) :
    ((s.tasks.insert task routine).values.flatMap Routine.owed).count r =
      routine.owed.count r + (s.owedByOthers task).count r := by
  have hperm :=
    (Table.values_insert_perm s.tasks task routine).flatMap_right Routine.owed
  rw [hperm.count_eq, List.flatMap_cons, List.count_append]
  rfl

theorem count_owed_setRoutine (s : Service) (task : Nat) (routine : Routine)
    (r : Record) :
    (s.setRoutine task routine).owed.count r =
      routine.owed.count r + (s.owedByOthers task).count r := by
  unfold setRoutine
  split
  next hstop =>
    rw [hstop]
    simp [owed, owedByOthers]
  next => exact count_values_insert s task routine r

theorem dealt_spawn_le (s : Service) (routine : Routine) (r : Record) :
    (s.spawn routine).dealt r ≤ s.dealt r + routine.owed.count r := by
  have howed : (s.spawn routine).owed.count r =
      routine.owed.count r + (s.owedByOthers s.nextTask).count r :=
    count_values_insert s s.nextTask routine r
  have hothers := s.count_owedByOthers_le s.nextTask r
  simp only [dealt, spawn_frame]
  omega

theorem dealt_setRoutine_le (s : Service) (task : Nat) (routine : Routine)
    (r : Record) :
    (s.setRoutine task routine).dealt r ≤ s.dealt r + routine.owed.count r := by
  have howed := s.count_owed_setRoutine task routine r
  have hothers := s.count_owedByOthers_le task r
  simp only [dealt, setRoutine_frame]
  omega

theorem dealt_abort_le (s : Service) (task : Nat) (r : Record) :
    (s.abort task).dealt r ≤ s.dealt r := by
  have hothers := s.count_owedByOthers_le task r
  exact Nat.add_le_add_left hothers _

theorem dealt_apply_le (s : Service) (r' : Record) (origin : Option Nat)
    (r : Record) :
    (s.apply r' origin).dealt r ≤ s.dealt r := by
  rw [apply_eq]
  split
  next =>
    unfold detach
    split
    next => exact Nat.le_refl _
    next task _ =>
      dsimp only
      split
      next => exact Nat.le_refl _
      next => exact dealt_abort_le _ task r
  next =>
    rw [setTimer_eq]
    exact Nat.le_refl _

theorem dealt_attach_le (s : Service) (id : MessageId) (r : Record) :
    (s.attach id).dealt r ≤ s.dealt r := by
  rcases attach_cases s id with ⟨hsame, _⟩ | ⟨stream, _, _, _, hattach⟩
  · exact Nat.le_of_eq (by rw [hsame])
  · rw [hattach]
    exact s.dealt_spawn_le (.follow (s.firstCursor id stream)) r

theorem dealt_attachTracked_le (s : Service) (id : MessageId) (r : Record) :
    (s.attachTracked id).dealt r ≤ s.dealt r := by
  refine attachTracked_elim (Nat.le_refl _) ?_
  intro _
  exact s.dealt_attach_le id r

theorem dealt_attachKnown_le (s : Service) (r : Record) :
    s.attachKnown.dealt r ≤ s.dealt r := by
  refine attachKnown_induction (Nat.le_refl _) ?_
  intro t id ht
  exact Nat.le_trans (t.dealt_attachTracked_le id r) ht

theorem dealt_begun_le (s : Service) (r : Record) :
    s.begun.dealt r ≤ s.dealt r := by
  refine List.foldlRecOn (motive := fun t => t.dealt r ≤ s.dealt r) _
    launch ?_ ?_
  · exact dealt_attachKnown_le { s with started := true } r
  · intro t ht routine hroutine
    have hnothing : routine.owed.count r = 0 := by
      rcases List.mem_cons.1 hroutine with rfl | hobserver
      · rfl
      · obtain ⟨cursor, _, rfl⟩ := List.mem_map.1 hobserver
        rfl
    have hspawn := t.dealt_spawn_le routine r
    have hlaunch : (t.launch routine).dealt r = (t.spawn routine).dealt r := rfl
    omega

theorem dealt_foldl_abort_le (ended : List Nat) (s : Service) (r : Record) :
    (ended.foldl abort s).dealt r ≤ s.dealt r := by
  induction ended generalizing s with
  | nil => exact Nat.le_refl _
  | cons first rest ih =>
    exact Nat.le_trans (ih (s.abort first)) (s.dealt_abort_le first r)

theorem dealt_shutdown_le (hrunning : s.shutDown = false) (r : Record) :
    s.shutdown.dealt r ≤ s.dealt r := by
  have haborted :=
    dealt_foldl_abort_le (s.background ++ s.subscriptions.values) s r
  rw [shutdown_eq hrunning]
  rw [foldl_abort_eq] at haborted
  exact haborted

/-- Work on a routine only moves what is owed to what is sent. -/
theorem Chore.dealt {saved : Bool} {old left : Routine} {task : Nat}
    (hchore : Chore s saved old t left) (htask : s.tasks.get? task = some old)
    (r : Record) :
    (t.setRoutine task left).dealt r = s.dealt r := by
  have hbefore := s.count_owed_of_get? htask r
  have hafter := t.count_owed_setRoutine task left r
  have hothers : t.owedByOthers task = s.owedByOthers task := by
    cases hchore <;> rfl
  rw [hothers] at hafter
  simp only [Service.dealt, setRoutine_frame]
  cases hchore with
  | send r' next =>
    simp only [Routine.owed, List.count_cons] at hbefore
    simp only [List.map_append, List.map_cons, List.map_nil, List.count_append,
      List.count_cons, List.count_nil]
    omega
  | finish resent watching =>
    simp only [Routine.owed_afterSweep, Routine.owed] at hbefore hafter
    omega
  | write copy next =>
    simp only [Routine.owed] at hbefore hafter
    dsimp only
    omega
  | _ =>
    simp only [Routine.owed] at hbefore hafter
    omega

/-- Nobody claims an attempt for a message without a live record. -/
theorem ne_of_claim (hkeyed : s.ledger.Keyed) {bound : ResendBound}
    {sweeping : Bool} {r' : Record}
    (hclaim : s.claim id bound sweeping = some (r', t))
    (hnone : s.record? r.id = none) : r' ≠ r := by
  rintro rfl
  obtain ⟨hrecord, _⟩ := claim_eq_some_iff.1 hclaim
  have hid : r'.id = id := hkeyed id r' (Ledger.find?_eq_some_iff.1 hrecord).1
  rw [hid, hrecord] at hnone
  cases hnone

theorem Transition.dealt_le (htransition : Transition s e t)
    (hkeyed : s.ledger.Keyed) (hnone : s.record? r.id = none) :
    t.dealt r ≤ s.dealt r := by
  cases htransition with
  | idle | report | forget | setNode | pass | setCalendar | lapse | exhaust =>
    exact Nat.le_refl _
  | start => exact dealt_begun_le s r
  | shutdown hrunning => exact dealt_shutdown_le hrunning r
  | refuse => exact s.dealt_spawn_le (.answer 0) r
  | sweep => exact s.dealt_spawn_le (.sweep s.candidates 0 none) r
  | retire r' =>
    calc ((s.spawn (.save (.answer 0))).apply r' none).dealt r
        ≤ (s.spawn (.save (.answer 0))).dealt r := dealt_apply_le _ r' none r
      _ ≤ s.dealt r := s.dealt_spawn_le (.save (.answer 0)) r
  | enroll r' =>
    calc (((s.spawn (.save (.answer 0))).apply r' none).attach r'.id).dealt r
        ≤ ((s.spawn (.save (.answer 0))).apply r' none).dealt r :=
          dealt_attach_le _ r'.id r
      _ ≤ (s.spawn (.save (.answer 0))).dealt r := dealt_apply_le _ r' none r
      _ ≤ s.dealt r := s.dealt_spawn_le (.save (.answer 0)) r
  | resend id r' claimed _ hclaim =>
    have hother := ne_of_claim hkeyed hclaim hnone
    obtain ⟨_, _, _, _, rfl⟩ := claim_eq_some_iff.1 hclaim
    have hspawn := dealt_spawn_le { s with
      ledger :=
        s.ledger.setAttempts id (nextCount (attemptsMade (s.attempts? id))) }
          (.save (.send r' (.answer 1))) r
    simp only [Routine.owed, List.count_cons, beq_iff_eq, hother, if_false,
      List.count_nil] at hspawn
    exact hspawn
  | fire generation sleeper r' claimed _ _ _ _ hclaim =>
    have hother :=
      ne_of_claim (s := s.woken generation sleeper.id) hkeyed hclaim hnone
    obtain ⟨_, _, _, _, rfl⟩ := claim_eq_some_iff.1 hclaim
    apply Nat.le_trans (dealt_spawn_le _ _ r)
    simp only [Routine.owed, List.count_cons, beq_iff_eq, hother, if_false,
      List.count_nil]
    exact Nat.le_refl _
  | chore task saved old left u htask _ hchore =>
    exact Nat.le_of_eq (hchore.dealt htask r)
  | catchUp task saved id rest resent watching r' claimed _ _ hclaim =>
    have hother := ne_of_claim hkeyed hclaim hnone
    obtain ⟨_, _, _, _, rfl⟩ := claim_eq_some_iff.1 hclaim
    apply Nat.le_trans (dealt_setRoutine_le _ task _ r)
    simp only [Routine.owed, List.count_cons, beq_iff_eq, hother, if_false,
      List.count_nil]
    exact Nat.le_refl _
  | restate task saved cursor seen status r' =>
    apply Nat.le_trans (dealt_setRoutine_le _ task _ r)
    have happly := s.dealt_apply_le (r'.withStatus status) (some task) r
    split <;> simpa using happly
  | drop task saved cursor => exact dealt_setRoutine_le _ task .stop r
  | leave task saved cursor => exact s.dealt_setRoutine_le task .stop r
  | hear task saved position heard id =>
    calc ((s.attachTracked id).setRoutine task (.listen heard)).dealt r
        ≤ (s.attachTracked id).dealt r :=
          dealt_setRoutine_le _ task (.listen heard) r
      _ ≤ s.dealt r := s.dealt_attachTracked_le id r
  | rescan task saved position heard =>
    calc (s.attachKnown.setRoutine task (.listen heard)).dealt r
        ≤ s.attachKnown.dealt r := dealt_setRoutine_le _ task (.listen heard) r
      _ ≤ s.dealt r := s.dealt_attachKnown_le r

/-- The application of a record claims nothing and sends nothing. -/
theorem Applies.dealt_le (happlies : s.Applies e r)
    (hreceived : r.status.isReceived = true) :
    (s.step e).outbox = s.outbox ∧ ∀ r', (s.step e).dealt r' ≤ s.dealt r' := by
  cases happlies with
  | register r hrunning =>
    rw [step_register_of_isReceived hrunning hreceived]
    refine ⟨by simp, fun r' => ?_⟩
    calc ((s.spawn (.save (.answer 0))).apply r none).dealt r'
        ≤ (s.spawn (.save (.answer 0))).dealt r' := dealt_apply_le _ r none r'
      _ ≤ s.dealt r' := s.dealt_spawn_le (.save (.answer 0)) r'
  | follow task saved cursor seen status r hhears =>
    have hstop : status.isReceived = true := hreceived
    rw [step_of_hears hhears, if_pos hstop]
    refine ⟨by simp, fun r' => ?_⟩
    calc ((s.apply (r.withStatus status) (some task)).setRoutine task
      (.save .stop)).dealt r'
        ≤ (s.apply (r.withStatus status) (some task)).dealt r' :=
          dealt_setRoutine_le _ task (.save .stop) r'
      _ ≤ s.dealt r' := s.dealt_apply_le (r.withStatus status) (some task) r'

/-! ## Every later run -/

/-- What is true of a service after a message was delivered: nothing is left of
it, and only what was claimed before `s` is sent or can still be sent. -/
structure Settled (s t : Service) (id : MessageId) : Prop where
  keyed : t.ledger.Keyed
  forgotten : t.Forgotten id
  outbox : ∃ sent, t.outbox = s.outbox ++ sent
  dealt : ∀ r, r.id = id → t.dealt r ≤ s.dealt r

theorem Settled.transition {u : Service} (ht : s.Settled t id)
    (hregister : ∀ r, e = .register r → r.id ≠ id)
    (htransition : Transition t e u) :
    s.Settled u id where
  keyed := htransition.keyed ht.keyed
  forgotten := ht.forgotten.transition ht.keyed hregister htransition
  outbox := by
    obtain ⟨sent, hsent⟩ := ht.outbox
    obtain ⟨more, hmore⟩ := htransition.frames.outbox
    exact ⟨sent ++ more, by rw [hmore, hsent, List.append_assoc]⟩
  dealt := by
    intro r hid
    have hnone : t.record? r.id = none := by rw [hid, ht.forgotten.record?]
    exact Nat.le_trans (htransition.dealt_le ht.keyed hnone) (ht.dealt r hid)

theorem Settled.run (ht : s.Settled t id) {later : List Event}
    (hregister : ∀ r, .register r ∈ later → r.id ≠ id) :
    s.Settled (t.run later) id := by
  apply run_induction (P := fun u => s.Settled u id) ht
  intro u v e he htransition hu
  refine hu.transition ?_ htransition
  rintro r rfl
  exact hregister r he

theorem Forgotten.settled (hs : s.Forgotten id) (hkeyed : s.ledger.Keyed) :
    s.Settled s id :=
  ⟨hkeyed, hs, ⟨[], (List.append_nil _).symm⟩, fun _ _ => Nat.le_refl _⟩

theorem Forgotten.run (hs : s.Forgotten id) (hkeyed : s.ledger.Keyed)
    {later : List Event} (hregister : ∀ r, .register r ∈ later → r.id ≠ id) :
    (s.run later).Forgotten id :=
  ((hs.settled hkeyed).run hregister).forgotten

/-- What a settled message is still sent is what was owed before. -/
theorem Settled.count_sent_le (ht : s.Settled t id) :
    ∃ sent, t.outbox = s.outbox ++ sent ∧
      ∀ r, r.id = id → (sent.map Dispatch.record).count r + t.owed.count r ≤
        s.owed.count r := by
  obtain ⟨sent, hsent⟩ := ht.outbox
  refine ⟨sent, hsent, fun r hid => ?_⟩
  have hdealt := ht.dealt r hid
  simp only [Service.dealt, hsent, List.map_append, List.count_append] at hdealt
  omega

theorem Applies.settled (happlies : s.Applies e r) (hkeyed : s.ledger.Keyed)
    (hreceived : r.status.isReceived = true) : s.Settled (s.step e) r.id where
  keyed := (transition_step s e).keyed hkeyed
  forgotten := happlies.forgotten hreceived
  outbox := ⟨[], by rw [(happlies.dealt_le hreceived).1, List.append_nil]⟩
  dealt := fun r' _ => (happlies.dealt_le hreceived).2 r'

/-- Once a received status is applied, nothing is left of its message in any
later run that does not register it again: no attempt is claimed for it, and
what is sent of it was claimed before. -/
theorem forgotten_of_received (hkeyed : s.ledger.Keyed)
    (happlies : s.Applies e r) (hreceived : r.status.isReceived = true)
    (later : List Event)
    (hregister : ∀ r', .register r' ∈ later → r'.id ≠ r.id) :
    ((s.step e).run later).Forgotten r.id ∧
      (∀ bound sweeping,
        ((s.step e).run later).claim r.id bound sweeping = none) ∧
      ∃ sent, ((s.step e).run later).outbox = s.outbox ++ sent ∧
        ∀ r', r'.id = r.id →
          (sent.map Dispatch.record).count r' +
            ((s.step e).run later).owed.count r' ≤
            s.owed.count r' := by
  have hsettled := (happlies.settled hkeyed hreceived).run hregister
  refine ⟨hsettled.forgotten, ?_, hsettled.count_sent_le⟩
  intro bound sweeping
  exact claim_eq_none_of_record? hsettled.forgotten.record?

/-- A failure that is reported late, a rescan and a request find nothing; the
attempt that was claimed before is sent. -/
theorem forgotten_of_received_acknowledged :
    (((following.run [.resend ⟨"m1"⟩, .report ⟨"m1"⟩ .ackReceived]).step
      (.resume 2 true)).run
      [.report ⟨"m1"⟩ .failed, .resume 0 true, .resend ⟨"m1"⟩, .resume 3 true,
        .resume 3 true, .resume 3 true]).Forgotten ⟨"m1"⟩ := by
  have hkeyed := (reachable_following.run
    [.resend ⟨"m1"⟩, .report ⟨"m1"⟩ .ackReceived]).coherent.ledger.keyed
  have hhears :
      (following.run [.resend ⟨"m1"⟩, .report ⟨"m1"⟩ .ackReceived]).Hears 2
      ⟨⟨"m1"⟩, 0, some 0⟩ ⟨⟨"m1"⟩, 0, some 1⟩ .ackReceived
        (.waiting ⟨"m1"⟩) := by
    constructor <;> decide +kernel
  have happlies := Applies.follow 2 true _ _ _ _ hhears
  refine (forgotten_of_received hkeyed happlies rfl _ ?_).1
  intro r hr
  simp at hr

end Redelivery.Service
