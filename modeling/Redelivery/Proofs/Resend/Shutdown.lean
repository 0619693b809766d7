import Redelivery.Node
import Redelivery.Proofs.Resend.Answers
import Redelivery.Proofs.Resend.Attendance

/-!
# A shutdown is final

A service that is shut down applies no record, claims no attempt and follows
nothing, so its ledger stays what it is.  What is asked of it after that comes
to nothing.  What was under way before goes on to save this ledger and to hand
over the messages whose attempts were claimed already.
-/

namespace Redelivery

/-- What an operation does that comes to nothing. -/
inductive Routine.Vain : Routine → Prop
  | answer : Vain (.answer 0)
  | sweep : Vain (.sweep [] 0 none)

theorem Routine.Vain.eq_zero {routine : Routine} (hvain : routine.Vain)
    {n : Nat} (hanswer : routine.answer? = some n) : n = 0 := by
  cases hvain <;> cases hanswer
  rfl

namespace Service

variable {s t start : Service} {e : Event} {id : MessageId} {task : Nat}
  {r : Record}
  {copy : Ledger} {events : List Event}

/-! ## Events after the end -/

theorem claimed?_of_shutDown (hshut : s.shutDown = true) (e : Event) :
    s.claimed? e = none := by
  have hnone (task : Nat) (id : MessageId) (bound : ResendBound)
      (sweeping : Bool) :
      s.attempt? task id bound sweeping = none := by
    simp [attempt?, hshut]
  have hwoken (generation task : Nat) (id : MessageId) (bound : ResendBound) :
      (s.woken generation id).attempt? task id bound false = none := by
    have hstays : (s.woken generation id).shutDown = true := hshut
    simp [attempt?, hstays]
  cases e with
  | resend id => exact hnone ..
  | wake generation =>
    simp only [claimed?]
    split
    next =>
      split
      next => exact hwoken ..
      next => rfl
    next => rfl
  | resume task saved =>
    simp only [claimed?]
    split
    next => exact hnone ..
    next => rfl
  | _ => rfl

theorem not_applies_of_shutDown (hshut : s.shutDown = true) :
    ¬s.Applies e r := by
  rintro (⟨r, hrunning⟩ | ⟨task, saved, cursor, seen, status, r, hhears⟩)
  · cases hrunning.symm.trans hshut
  · cases hhears.running.symm.trans hshut

theorem Course.ledger_of_shutDown (hcourse : Course s e t)
    (hshut : s.shutDown = true) :
    t.ledger = s.ledger := by
  cases hcourse with
  | claim a hclaimed => cases (claimed?_of_shutDown hshut e).symm.trans hclaimed
  | quiet _ _ hledger =>
    rcases hledger with hsame | ⟨r, happlies, _⟩
    · exact hsame
    · exact absurd happlies (not_applies_of_shutDown hshut)
  | copy | keep | lose | send => simp

theorem shutDown_step (hshut : s.shutDown = true) (e : Event) :
    (s.step e).shutDown = true := by
  cases hafter : (s.step e).shutDown with
  | true => rfl
  | false => cases (running_of_step hafter).symm.trans hshut

theorem attach_of_shutDown (hshut : s.shutDown = true) (id : MessageId) :
    s.attach id = s :=
  attach_of_refused (.inl hshut)

theorem attachTracked_of_shutDown (hshut : s.shutDown = true) (id : MessageId) :
    s.attachTracked id = s :=
  attachTracked_elim rfl fun _ => attach_of_shutDown hshut id

theorem attachKnown_of_shutDown (hshut : s.shutDown = true) :
    s.attachKnown = s := by
  refine attachKnown_induction (P := fun t => t = s) rfl ?_
  rintro t id rfl
  exact attachTracked_of_shutDown hshut id

/-- No timer is armed and nothing is followed. -/
structure Silent (s : Service) : Prop where
  unarmed : ∀ id, s.scheduler.timers.get? id = none
  unfollowed : ∀ id, s.subscriptions.get? id = none

theorem silent_shutdown (hrunning : s.shutDown = false) :
    s.shutdown.Silent := by
  rw [shutdown_eq hrunning]
  exact ⟨fun id => Scheduler.timers_cancelAll s.scheduler id, fun _ => rfl⟩

theorem Transition.subscriptions_of_shutDown (htransition : Transition s e t)
    (hshut : s.shutDown = true) (hnone : s.subscriptions.get? id = none) :
    t.subscriptions.get? id = none := by
  have hnot : s.shutDown ≠ false := by simp [hshut]
  cases htransition with
  | idle | report | forget | setNode | pass | setCalendar | refuse | sweep
  | lapse => exact hnone
  | drop _ _ cursor => simp [hnone]
  | hear task saved position heard id' =>
    simpa [attachTracked_of_shutDown hshut] using hnone
  | rescan => simpa [attachKnown_of_shutDown hshut] using hnone
  | chore _ _ _ _ _ _ _ hchore => cases hchore <;> simpa using hnone
  | leave => simpa using hnone
  | restate _ _ _ _ _ _ hhears => exact absurd hhears.running hnot
  | _ => exact absurd ‹s.shutDown = false› hnot

theorem Transition.silent (htransition : Transition s e t)
    (hshut : s.shutDown = true) (hs : s.Silent) : t.Silent where
  unarmed := by
    intro id
    have hquiet : ∀ r, s.Applies e r → r.id ≠ id :=
      fun r happlies => absurd happlies (not_applies_of_shutDown hshut)
    rcases htransition.timers_of_quiet hquiet with hsame | hnone
    · rw [hsame, hs.unarmed]
    · exact hnone
  unfollowed :=
    fun id => htransition.subscriptions_of_shutDown hshut (hs.unfollowed id)

theorem Transition.silent_of_running (htransition : Transition s e t)
    (hrunning : s.shutDown = false) (hshut : t.shutDown = true) : t.Silent := by
  have hended : e = .shutdown := by
    rcases htransition.frames.shutDown with hsame | hevent
    · cases hrunning.symm.trans (hsame.symm.trans hshut)
    · exact hevent
  subst hended
  cases htransition with
  | idle | refuse => cases hrunning.symm.trans hshut
  | shutdown => exact silent_shutdown hrunning

theorem silent_run (hstart : start.Fresh) (events : List Event)
    (hshut : (start.run events).shutDown = true) :
    (start.run events).Silent := by
  refine run_induction (P := fun t => t.shutDown = true → t.Silent) ?_ ?_ hshut
  · intro hshut
    cases hstart.shutDown.symm.trans hshut
  · intro t u e _ htransition ht hshut
    cases hbefore : t.shutDown with
    | true => exact htransition.silent hbefore (ht hbefore)
    | false => exact htransition.silent_of_running hbefore hshut

/-! ## Operations after the end -/

theorem candidates_of_shutDown (hshut : s.shutDown = true) :
    s.candidates = [] := by
  simp [candidates, hshut]

/-- What is begun after the end comes to nothing, and stays there until it is
answered. -/
structure ComesToNothing (s t : Service) : Prop where
  grows : s.nextTask ≤ t.nextTask
  begun : ∀ task, s.nextTask ≤ task → task < t.nextTask →
    ∃ routine, t.tasks.get? task = some routine ∧ routine.Vain
  stays : ∀ task routine, s.tasks.get? task = some routine → routine.Vain →
    ∃ left, t.tasks.get? task = some left ∧ left.Vain

theorem ComesToNothing.of_same (hnext : t.nextTask = s.nextTask)
    (htasks : ∀ task routine, s.tasks.get? task = some routine → routine.Vain →
      ∃ left, t.tasks.get? task = some left ∧ left.Vain) : s.ComesToNothing t :=
  ⟨Nat.le_of_eq hnext.symm, fun _ hlow hhigh =>
    absurd hhigh (Nat.not_lt_of_le (hnext ▸ hlow)), htasks⟩

theorem comesToNothing_spawn {routine : Routine} (hvain : routine.Vain) :
    s.ComesToNothing (s.spawn routine) where
  grows := Nat.le_succ _
  begun := by
    intro task hlow hhigh
    have hsame : task = s.nextTask :=
      Nat.le_antisymm (Nat.le_of_lt_succ hhigh) hlow
    exact ⟨routine, by rw [tasks_spawn, if_pos hsame], hvain⟩
  stays := by
    intro task before hbefore hkept
    rw [tasks_spawn]
    split
    next => exact ⟨routine, rfl, hvain⟩
    next => exact ⟨before, hbefore, hkept⟩

theorem comesToNothing_setRoutine {old left : Routine}
    (htask : s.tasks.get? task = some old) (hnext : t.nextTask = s.nextTask)
    (htasks : t.tasks = s.tasks) (hleft : old.Vain → left = .answer 0) :
    s.ComesToNothing (t.setRoutine task left) := by
  refine .of_same (by simpa using hnext) fun other routine hother hvain => ?_
  rw [tasks_setRoutine, htasks]
  split
  next hsame =>
    rw [hsame, htask] at hother
    cases hother
    rw [hleft hvain]
    exact ⟨.answer 0, rfl, .answer⟩
  next => exact ⟨routine, hother, hvain⟩

theorem Transition.comesToNothing (htransition : Transition s e t)
    (hshut : s.shutDown = true) :
    s.ComesToNothing t := by
  have hnot : s.shutDown ≠ false := by simp [hshut]
  cases htransition with
  | idle | report | forget | setNode | pass | setCalendar | lapse =>
    exact .of_same rfl fun _ routine htask hvain => ⟨routine, htask, hvain⟩
  | refuse => exact comesToNothing_spawn .answer
  | sweep =>
    rw [candidates_of_shutDown hshut]
    exact comesToNothing_spawn .sweep
  | hear task saved position heard id htask =>
    rw [attachTracked_of_shutDown hshut]
    exact comesToNothing_setRoutine htask rfl rfl nofun
  | rescan task saved position heard count htask =>
    rw [attachKnown_of_shutDown hshut]
    exact comesToNothing_setRoutine htask rfl rfl nofun
  | drop task saved cursor htask =>
    exact comesToNothing_setRoutine htask rfl rfl nofun
  | leave task saved cursor htask =>
    exact comesToNothing_setRoutine htask rfl rfl nofun
  | chore task saved old left u htask hready hchore =>
    cases hchore with
    | finish resent watching =>
      refine comesToNothing_setRoutine htask rfl rfl ?_
      rintro ⟨⟩
      rfl
    | _ => exact comesToNothing_setRoutine htask rfl rfl nofun
  | restate _ _ _ _ _ _ hhears => exact absurd hhears.running hnot
  | _ => exact absurd ‹s.shutDown = false› hnot

/-! ## Saves -/

/-- Nothing counts as a save but the end of one. -/
theorem Transition.saves_cases (htransition : Transition s e t) :
    t.saves = s.saves ∨ ∃ task copy,
      e = .resume task true ∧ s.Saves task copy := by
  cases htransition with
  | shutdown hrunning => exact .inl (by rw [shutdown_eq hrunning])
  | start => left; unfold begun; rw [foldl_launch_eq]; simp
  | resend id r claimed _ hclaim =>
    obtain ⟨_, _, _, _, rfl⟩ := claim_eq_some_iff.1 hclaim
    exact .inl rfl
  | fire generation sleeper r claimed _ _ _ _ hclaim =>
    obtain ⟨_, _, _, _, rfl⟩ := claim_eq_some_iff.1 hclaim
    exact .inl rfl
  | catchUp task saved id rest resent watching r claimed _ _ hclaim =>
    obtain ⟨_, _, _, _, rfl⟩ := claim_eq_some_iff.1 hclaim
    exact .inl (by simp)
  | chore task saved old left u htask _ hchore =>
    cases hchore with
    | write copy next hsaved =>
      exact .inr ⟨task, copy, by rw [hsaved], left, htask⟩
    | _ => exact .inl (by simp)
  | retire | enroll | restate | hear | rescan | drop | leave =>
    exact .inl (by simp)
  | _ => exact .inl rfl

/-! ## After a shutdown -/

/-- What stays so once the service `s` is shut down. -/
structure Over (s t : Service) : Prop where
  shutDown : t.shutDown = true
  ledger : t.ledger = s.ledger
  silent : t.Silent
  saving : t.Saving
  grows : s.nextTask ≤ t.nextTask
  begun : ∀ task, s.nextTask ≤ task → task < t.nextTask →
    ∃ routine, t.tasks.get? task = some routine ∧ routine.Vain
  copies : ∀ task copy, t.Saves task copy → copy = s.ledger ∨ s.Saves task copy

theorem Over.step (hover : s.Over t) (e : Event) : s.Over (t.step e) where
  shutDown := shutDown_step hover.shutDown e
  ledger :=
    ((course_step t e).ledger_of_shutDown hover.shutDown).trans hover.ledger
  silent := (transition_step t e).silent hover.shutDown hover.silent
  saving := (course_step t e).saving hover.saving
  grows := Nat.le_trans hover.grows
    ((transition_step t e).comesToNothing hover.shutDown).grows
  begun := by
    have hnothing := (transition_step t e).comesToNothing hover.shutDown
    intro task hlow hhigh
    by_cases hbefore : task < t.nextTask
    · obtain ⟨routine, htask, hvain⟩ := hover.begun task hlow hbefore
      exact hnothing.stays task routine htask hvain
    · exact hnothing.begun task (Nat.le_of_not_lt hbefore) hhigh
  copies := by
    intro task copy hsaves
    rcases (course_step t e).saves_cases hover.saving hsaves with hbefore |
      ⟨_, hcopy, _⟩
    · exact hover.copies task copy hbefore
    · exact .inl (hcopy.trans hover.ledger)

theorem Over.run (hover : s.Over t) (events : List Event) :
    s.Over (t.run events) := by
  induction events generalizing t with
  | nil => exact hover
  | cons e rest ih => exact ih (hover.step e)

theorem Over.refl (hover : s.Over t) : t.Over t :=
  ⟨hover.shutDown, rfl, hover.silent, hover.saving, Nat.le_refl _,
    fun _ hlow hhigh => absurd hhigh (Nat.not_lt_of_le hlow), fun _ _ => .inr⟩

theorem step_shutdown_of_shutDown (hshut : s.shutDown = true) :
    s.step .shutdown = s := by
  simp [Service.step, shutdown, hshut]

theorem over_shutdown (hsilent : s.shutDown = true → s.Silent)
    (hsaving : s.Saving) :
    s.Over (s.step .shutdown) := by
  have hcourse := course_step s .shutdown
  have hframe : (s.step .shutdown).shutDown = true ∧
      (s.step .shutdown).ledger = s.ledger ∧
      (s.step .shutdown).Silent ∧ (s.step .shutdown).nextTask = s.nextTask := by
    cases hshut : s.shutDown with
    | true =>
      rw [step_shutdown_of_shutDown hshut]
      exact ⟨hshut, rfl, hsilent hshut, rfl⟩
    | false =>
      have hended : (s.step .shutdown).Silent := silent_shutdown hshut
      refine ⟨?_, ?_, hended, ?_⟩
        <;> simp only [Service.step, shutdown_eq hshut]
  obtain ⟨hshut, hledger, hended, hnext⟩ := hframe
  refine ⟨hshut, hledger, hended, hcourse.saving hsaving,
    Nat.le_of_eq hnext.symm, ?_, ?_⟩
  · intro task hlow hhigh
    exact absurd hhigh (Nat.not_lt_of_le (hnext ▸ hlow))
  · intro task copy hsaves
    rcases hcourse.saves_cases hsaving hsaves with hbefore |
      ⟨_, _, _, _, hevent, _⟩
    · exact .inr hbefore
    · cases hevent

/-- What the service `t` is, after `s` was shut down, and what can still come of
it. -/
structure Final (s t : Service) : Prop where
  ledger : t.ledger = s.ledger
  unarmed : ∀ id, t.scheduler.isArmed id = false
  unfollowed : ∀ id, t.isSubscribed id = false
  unclaimed : ∀ e, t.claimed? e = none
  refused : t.start? = .error .shutDown
  resent : ∀ id, (t.step (.resend id)).answer? t.nextTask = some 0
  /-- A sweep is not answered with anything but that nothing was sent, and it is
  answered as soon as it goes on. -/
  swept : ∀ events saved,
    (∀ n, ((t.step .sweep).run events).answer? t.nextTask = some n → n = 0) ∧
    (((t.step .sweep).run events).step (.resume t.nextTask saved)).answer?
      t.nextTask = some 0
  /-- Whatever happens that does not let a task go on from before the shutdown,
  nothing is saved and nothing is sent. -/
  quiet : ∀ e,
    (∀ task saved, e = .resume task saved →
      s.nextTask ≤ task ∧ task < t.nextTask) →
    (t.step e).kept = t.kept ∧ (t.step e).saves = t.saves ∧
      (t.step e).outbox = t.outbox
  /-- A save that begins takes the ledger as it was at the shutdown. -/
  copies : ∀ e task copy, (t.step e).Saves task copy →
    t.Saves task copy ∨ copy = s.ledger
  /-- A save that ends was of that ledger, or was under way when the service was
  shut down. -/
  saves : ∀ e, ((t.step e).kept = t.kept ∧ (t.step e).saves = t.saves) ∨
    ∃ task copy, e = .resume task true ∧ t.Saves task copy ∧
      (t.step e).kept = some copy ∧
      (copy = s.ledger ∨ s.Saves task copy)
  /-- A node that is served again saves that ledger, and stays what it is. -/
  served : ∀ store, t.serve store = do
    let (result, store) ← store.save s.ledger
    return (result, store, t)

theorem Over.kept_or_saves (hover : s.Over t) (e : Event) :
    ((t.step e).kept = t.kept ∧ (t.step e).saves = t.saves) ∨
    ∃ task copy, e = .resume task true ∧ t.Saves task copy ∧
      (t.step e).kept = some copy ∧
      (copy = s.ledger ∨ s.Saves task copy) := by
  rcases (transition_step t e).saves_cases with hsaves |
    ⟨task, copy, rfl, hsaves⟩
  · rcases (course_step t e).kept_cases hover.saving with hkept |
      ⟨task, copy, rfl, hcopy, hkept, _⟩
    · exact .inl ⟨hkept, hsaves⟩
    · exact .inr ⟨task, copy, rfl, hcopy, hkept, hover.copies task copy hcopy⟩
  · obtain ⟨next, htask⟩ := hsaves
    refine .inr ⟨task, copy, rfl, ⟨next, htask⟩, ?_,
      hover.copies task copy ⟨next, htask⟩⟩
    simp [step_of_writes htask]

/-- A sweep that is begun after the end is answered with nothing, as soon as it
goes on. -/
theorem Over.swept (hover : s.Over t) (events : List Event) (saved : Bool) :
    (∀ n, ((t.step .sweep).run events).answer? t.nextTask = some n → n = 0) ∧
    (((t.step .sweep).run events).step (.resume t.nextTask saved)).answer?
      t.nextTask = some 0 := by
  have hlater := (hover.step .sweep).run events
  have hspawned : t.nextTask < (t.step .sweep).nextTask := Nat.lt_succ_self _
  have hgrows :
      (t.step .sweep).nextTask ≤ ((t.step .sweep).run events).nextTask :=
    ((hover.step .sweep).refl.run events).grows
  obtain ⟨routine, htask, hvain⟩ :=
    hlater.begun t.nextTask hover.grows (Nat.lt_of_lt_of_le hspawned hgrows)
  refine ⟨fun n hanswer => ?_, ?_⟩
  · rw [answer?, htask] at hanswer
    exact hvain.eq_zero hanswer
  · cases hvain with
    | answer => rw [step_of_idle htask rfl, answer?, htask]; rfl
    | sweep =>
      rw [step_of_ready htask rfl]
      change (Service.setRoutine _ t.nextTask (.answer 0)).answer? t.nextTask =
        some 0
      simp [answer?, tasks_setRoutine, Routine.answer?]

/-- Only what was begun before the end saves or sends. -/
theorem Over.quiet (hover : s.Over t) (e : Event)
    (hlater : ∀ task saved, e = .resume task saved →
      s.nextTask ≤ task ∧ task < t.nextTask) :
    (t.step e).kept = t.kept ∧ (t.step e).saves = t.saves ∧
    (t.step e).outbox = t.outbox := by
  have hvain : ∀ task saved routine, e = .resume task saved →
      t.tasks.get? task = some routine → routine.Vain := by
    intro task saved routine hevent htask
    obtain ⟨hlow, hhigh⟩ := hlater task saved hevent
    obtain ⟨vain, hvainTask, hvain⟩ := hover.begun task hlow hhigh
    cases htask.symm.trans hvainTask
    exact hvain
  have hsender : t.sender? e = none := by
    cases hsender : t.sender? e with
    | none => rfl
    | some task =>
      obtain ⟨saved, r, next, hevent, htask⟩ := sender?_eq_some_iff.1 hsender
      cases hvain task saved _ hevent htask
  have houtbox := (course_step t e).outbox_eq hsender
  rcases hover.kept_or_saves e with ⟨hkept, hsaves⟩ |
    ⟨task, copy, hevent, ⟨next, htask⟩, _⟩
  · exact ⟨hkept, hsaves, houtbox⟩
  · cases hvain task true _ hevent htask

theorem Over.final (hover : s.Over t) : s.Final t where
  ledger := hover.ledger
  unarmed := fun id => by
    simp [Scheduler.isArmed, Table.contains_eq, hover.silent.unarmed]
  unfollowed := fun id => by
    simp [isSubscribed, Table.contains_eq, hover.silent.unfollowed]
  unclaimed := claimed?_of_shutDown hover.shutDown
  refused := by simp [start?_eq, hover.shutDown]
  resent := by
    intro id
    simp [Service.step, resend, hover.shutDown, answer?, tasks_spawn,
      Routine.answer?]
  swept := hover.swept
  quiet := hover.quiet
  copies := by
    intro e task copy hsaves
    rcases (course_step t e).saves_cases hover.saving hsaves with hbefore |
      ⟨_, hcopy, _⟩
    · exact .inl hbefore
    · exact .inr (hcopy.trans hover.ledger)
  saves := hover.kept_or_saves
  served := by
    intro store
    rw [serve, step_shutdown_of_shutDown hover.shutDown, hover.ledger]

end Service

namespace Journal

variable {j : Journal}

theorem claims_run_of_shutDown (hshut : j.service.shutDown = true)
    (events : List Event) :
    (j.run events).claims = j.claims := by
  induction events generalizing j with
  | nil => rfl
  | cons e rest ih =>
    have hclaimed := Service.claimed?_of_shutDown hshut e
    rw [run_cons, ih (Service.shutDown_step hshut e), step, hclaimed]
    simp

end Journal

namespace Service

variable {start : Service}

/-- A shutdown is final, wherever in a run it comes and whatever comes after it.
The ledger stays what it is, no timer is armed, nothing is followed and no
attempt is claimed; what is asked of the service is refused or comes to nothing.
All that is handed over later was claimed before, and every save that begins
later is of the ledger as it was, that of a node which is served again
included. -/
theorem final_of_shutdown (hstart : start.Fresh) (before after : List Event) :
    (start.run before).Final (start.run (before ++ .shutdown :: after)) ∧
    ((Journal.opened start).run (before ++ .shutdown :: after)).claims =
      ((Journal.opened start).run before).claims ∧
    ((Journal.opened start).run (before ++ .shutdown :: after)).Accounts
      start := by
  have hover :=
    over_shutdown (silent_run hstart before) (saving_run hstart.saving before)
  refine ⟨?_, ?_, ((Journal.orderly_opened hstart).run _).toAccounts⟩
  · rw [run_append, run_cons]
    exact (hover.run after).final
  · have hended :
        (((Journal.opened start).run before).step .shutdown).service.shutDown =
          true := by
      rw [Journal.service_step, Journal.service_run]
      exact hover.shutDown
    rw [Journal.run_append, Journal.run_cons,
      Journal.claims_run_of_shutDown hended]
    simp [Journal.step, claimed?]

/-- A message is handed over and saved, and the user asks for it to be sent
again. -/
def underWay : List Event :=
  [.register (.waiting ⟨"m1"⟩), .resume 0 true, .resume 0 true, .resend ⟨"m1"⟩]

/-- The message whose attempt was claimed is sent after the shutdown, and no
other is. -/
theorem final_of_shutdown_underWay :
    (Service.new .standard (.restored none 0) default 0).Fresh ∧
    ((Service.new .standard (.restored none 0) default 0).run
      (underWay ++
        .shutdown :: [.resume 1 true, .resume 1 true, .resume 1 true])).outbox =
        [⟨0, .waiting ⟨"m1"⟩⟩] ∧
    ((Service.new .standard (.restored none 0) default 0).run underWay).Final
      ((Service.new .standard (.restored none 0) default 0).run
        (underWay ++
          .shutdown :: [.resume 1 true, .resume 1 true, .resume 1 true])) := by
  have hfresh := fresh_new .standard none 0 default 0
  exact ⟨hfresh, by decide, (final_of_shutdown hfresh _ _).1⟩

/-- A service that is saving a message, while the user asks for it to be sent
again. -/
def counting : Service :=
  (Service.new .standard (.restored none 0) default 0).run
    [.register (.waiting ⟨"m1"⟩), .resume 0 true, .resend ⟨"m1"⟩]

/-- After the shutdown the save under way ends, and stores the ledger without
the attempt that was claimed since; and serving the node again saves once
more. -/
theorem saved_after_shutdown :
    counting.Reachable ∧ (counting.step .shutdown).saves = 0 ∧
    (counting.run [.shutdown, .resume 0 true]).saves = 1 ∧
    (∃ copy, (counting.run [.shutdown, .resume 0 true]).kept = some copy ∧
      copy.attempts? ⟨"m1"⟩ = none ∧
      counting.ledger.attempts? ⟨"m1"⟩ = some 2) ∧
    ∀ d, ((counting.step .shutdown).serve (.memory none)).run d =
      ((.ok (), .memory (some counting.ledger), counting.step .shutdown), d) :=
  ⟨⟨_, _, fresh_new .standard none 0 default 0, Ledger.keyed_empty, rfl⟩, rfl,
    rfl, ⟨_, rfl, rfl, rfl⟩, fun _ => rfl⟩

end Service

end Redelivery
