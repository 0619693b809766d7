import Mathlib.Data.List.Induction
import Redelivery.Proofs.Resend.Answers

/-!
# Saves that fail

The service never looks at its store.  So which saves take place decides about
nothing but the store, and since every save writes a copy of the whole ledger,
the first one that takes place after others have failed makes up for all of
them.
-/

namespace Redelivery

namespace Event

def lossless : Event → Event
  | resume task _ => resume task true
  | e => e

@[simp]
theorem lossless_lossless (e : Event) : e.lossless.lossless = e.lossless := by
  cases e <;> rfl

end Event

namespace Service

variable {s t : Service} {e : Event} {id : MessageId} {task : Nat}
  {copy : Ledger}

/-! ## A service without its store -/

/-- All of a service but its store. -/
def memory (s : Service) : Service :=
  { s with kept := none, saves := 0 }

@[simp]
theorem memory_frame (s : Service) :
    s.memory.config = s.config ∧
      s.memory.ledger = s.ledger ∧
      s.memory.scheduler = s.scheduler ∧
      s.memory.subscriptions = s.subscriptions ∧
      s.memory.tasks = s.tasks ∧
      s.memory.nextTask = s.nextTask ∧
      s.memory.started = s.started ∧
      s.memory.shutDown = s.shutDown ∧
      s.memory.source = s.source ∧
      s.memory.nodes = s.nodes ∧
      s.memory.clock = s.clock := by
  simp [memory]

theorem memory_setRoutine (s : Service) (task : Nat) (routine : Routine) :
    (s.setRoutine task routine).memory = s.memory.setRoutine task routine :=
  apply_ite memory _ _ _

theorem memory_detach (s : Service) (id : MessageId) (origin : Option Nat) :
    (s.detach id origin).memory = s.memory.detach id origin := by
  unfold detach
  simp only [memory_frame]
  cases s.subscriptions.get? id with
  | none => rfl
  | some task => exact apply_ite memory _ _ _

theorem memory_setTimer (s : Service) (id : MessageId) (status : DeliveryStatus)
    (action : TimerAction) :
    (s.setTimer id status action).memory =
      s.memory.setTimer id status action := by
  cases action with
  | cancel => rfl
  | arm delay => exact apply_ite memory _ _ _

theorem memory_apply (s : Service) (r : Record) (origin : Option Nat) :
    (s.apply r origin).memory = s.memory.apply r origin := by
  rw [apply_eq, apply_eq, apply_ite memory, memory_detach, memory_setTimer]
  rfl

theorem memory_attach (s : Service) (id : MessageId) :
    (s.attach id).memory = s.memory.attach id := by
  rcases attach_cases s id with
    ⟨hsame, hrefused⟩ | ⟨stream, hrunning, hfree, hcurrent, hattach⟩
  · rw [hsame, attach_of_refused (s := s.memory) hrefused]
  · rw [hattach, attach_of_current (s := s.memory) hrunning hfree hcurrent]
    rfl

theorem memory_attachTracked (s : Service) (id : MessageId) :
    (s.attachTracked id).memory = s.memory.attachTracked id := by
  rw [attachTracked, apply_ite memory, memory_attach]
  rfl

theorem memory_foldl {α : Type} {f : Service → α → Service}
    (hf : ∀ s a, (f s a).memory = f s.memory a) (s : Service) (l : List α) :
    (l.foldl f s).memory = l.foldl f s.memory := by
  induction l generalizing s with
  | nil => rfl
  | cons a rest ih => rw [List.foldl_cons, ih, hf, List.foldl_cons]

theorem memory_attachKnown (s : Service) :
    s.attachKnown.memory = s.memory.attachKnown :=
  memory_foldl memory_attachTracked s s.source.ids

theorem memory_begun (s : Service) : s.begun.memory = s.memory.begun := by
  unfold begun
  rw [memory_foldl fun _ _ => rfl, memory_attachKnown]
  rfl

theorem memory_shutdown (s : Service) :
    s.shutdown.memory = s.memory.shutdown := by
  unfold shutdown
  rw [apply_ite memory, ← memory_foldl (f := abort) (fun _ _ => rfl)]
  rfl

/-! ## Attempts and operations -/

theorem memory_claim (s : Service) (id : MessageId) (bound : ResendBound)
    (sweeping : Bool) :
    s.memory.claim id bound sweeping =
      (s.claim id bound sweeping).map fun claimed =>
        (claimed.1, claimed.2.memory) := by
  cases hclaim : s.claim id bound sweeping with
  | some claimed =>
    obtain ⟨r, t⟩ := claimed
    obtain ⟨hrecord, hsweep, hbound, hwithin, rfl⟩ := claim_eq_some_iff.1 hclaim
    exact claim_eq_some_iff.2 ⟨hrecord, hsweep, hbound, hwithin, rfl⟩
  | none =>
    refine Option.eq_none_iff_forall_ne_some.2 ?_
    rintro ⟨r, t⟩ hsome
    obtain ⟨hrecord, hsweep, hbound, hwithin, -⟩ := claim_eq_some_iff.1 hsome
    have hclaimed : s.claim id bound sweeping = some (r, _) :=
      claim_eq_some_iff.2 ⟨hrecord, hsweep, hbound, hwithin, rfl⟩
    rw [hclaim] at hclaimed
    cases hclaimed

theorem memory_register (s : Service) (r : Record) :
    (s.register r).memory = s.memory.register r := by
  unfold register
  simp only [memory_frame, apply_ite memory, memory_attach, memory_apply]
  rfl

theorem memory_resend (s : Service) (id : MessageId) :
    (s.resend id).memory = s.memory.resend id := by
  unfold resend
  rw [memory_claim]
  simp only [memory_frame, apply_ite memory]
  cases s.claim id .manual false <;> rfl

theorem memory_fire (s : Service) (id : MessageId) (generation : Nat) :
    (s.fire id generation).memory = s.memory.fire id generation := by
  have hclaim :=
    memory_claim { s with scheduler := s.scheduler.complete id generation } id
    .automatic false
  rw [fire, fire, apply_ite memory]
  refine ite_congr rfl (fun _ => rfl) fun _ => ?_
  simp only [memory] at hclaim ⊢
  rw [hclaim]
  cases ({ s with scheduler := s.scheduler.complete id generation } :
    Service).claim id
    .automatic false <;> rfl

theorem memory_wake (s : Service) (generation : Nat) :
    (s.wake generation).memory = s.memory.wake generation := by
  unfold wake
  simp only [memory_frame]
  cases s.scheduler.sleepers.get? generation with
  | none => rfl
  | some sleeper =>
    simp only [apply_ite memory, memory_fire]
    rfl

/-! ## Tasks -/

/-- What a task does to all but the store, and what is left of its routine. -/
def workedMemory (worked : Service × Routine) : Service × Routine :=
  (worked.1.memory, worked.2)

theorem memory_trySweep (s : Service) (id : MessageId) (rest : List MessageId)
    (resent : Nat) (watching : Option NodeCursor) :
    s.memory.trySweep id rest resent watching =
      workedMemory (s.trySweep id rest resent watching) := by
  unfold trySweep
  rw [memory_claim, (memory_frame s).2.2.2.2.2.2.2.1]
  cases s.shutDown with
  | true => rfl
  | false => cases s.claim id .automatic true <;> rfl

theorem memory_onStatus (s : Service) (task : Nat) (cursor : StatusCursor)
    (status : DeliveryStatus) :
    s.memory.onStatus task cursor status =
      workedMemory (s.onStatus task cursor status) := by
  unfold onStatus
  rw [apply_ite workedMemory]
  refine ite_congr rfl (fun _ => rfl) fun _ => ?_
  have hrecord : s.memory.record? cursor.id = s.record? cursor.id := rfl
  rw [hrecord]
  cases s.record? cursor.id with
  | none => rfl
  | some r =>
    simp only [workedMemory, memory_apply]
    rfl

theorem memory_work (s : Service) (task : Nat) (saved : Bool)
    (routine : Routine) :
    workedMemory (s.work task saved routine) =
      workedMemory (s.memory.work task true routine) := by
  cases routine with
  | write copy next => cases saved <;> rfl
  | sweep candidates resent watching =>
    cases candidates with
    | nil => rfl
    | cons id rest =>
      exact (congrArg workedMemory
        (memory_trySweep s id rest resent watching)).symm
  | follow cursor =>
    rw [work_follow, work_follow]
    have hsource : s.memory.source = s.source := rfl
    rw [hsource]
    rcases s.source.next cursor with ⟨status | _ | _, seen⟩
    · exact (congrArg workedMemory (memory_onStatus s task seen status)).symm
    · rfl
    · refine (apply_ite workedMemory _ _ _).trans
        (Eq.trans ?_ (apply_ite workedMemory _ _ _).symm)
      rfl
  | listen position =>
    rw [work_listen, work_listen]
    have hsource : s.memory.source = s.source := rfl
    rw [hsource]
    rcases s.source.hear position with ⟨id | _ | _, heard⟩
    · simp only [workedMemory, memory_attachTracked]
      rfl
    · simp only [workedMemory, memory_attachKnown]
      rfl
    · rfl
  | observe cursor =>
    rw [work_observe, work_observe]
    have hnodes : s.memory.nodes = s.nodes := rfl
    rw [hnodes]
    rcases s.nodes.poll cursor with ⟨_ | state, seen⟩
    · rfl
    · cases state <;> rfl
  | _ => rfl

theorem memory_resume (s : Service) (task : Nat) (saved : Bool) :
    (s.resume task saved).memory = (s.memory.resume task true).memory := by
  unfold resume
  rw [(memory_frame s).2.2.2.2.1]
  cases s.tasks.get? task with
  | none => rfl
  | some routine =>
    have hwork := memory_work s task saved routine
    have hready : s.memory.isReady routine = s.isReady routine := by
      cases routine <;> rfl
    simp only [hready, apply_ite memory, memory_setRoutine]
    refine ite_congr rfl (fun _ => ?_) fun _ => rfl
    simp only [workedMemory, Prod.mk.injEq] at hwork
    rw [hwork.1, hwork.2]

/-! ## Events and runs -/

theorem memory_start? (s : Service) :
    s.memory.start? = s.start?.map memory := by
  rw [start?_eq, start?_eq, ← memory_begun, apply_ite (Except.map memory),
    apply_ite (Except.map memory)]
  rfl

theorem memory_of_memory {u : Service} (hsame : s.memory = u) :
    s.memory = u.memory := by
  rw [← hsame]
  rfl

theorem memory_step (s : Service) (e : Event) :
    (s.step e).memory = (s.memory.step e.lossless).memory := by
  cases e with
  | register r => exact memory_of_memory (memory_register s r)
  | resend id => exact memory_of_memory (memory_resend s id)
  | start =>
    simp only [step, Event.lossless, memory_start?]
    cases s.start? <;> rfl
  | shutdown => exact memory_of_memory (memory_shutdown s)
  | wake generation => exact memory_of_memory (memory_wake s generation)
  | resume task saved => exact memory_resume s task saved
  | _ => rfl

/-- Which saves take place decides about nothing but the store. -/
theorem memory_run (s : Service) (events : List Event) :
    (s.run (events.map Event.lossless)).memory = (s.run events).memory := by
  induction events using List.reverseRecOn with
  | nil => rfl
  | append_singleton events e ih =>
    rw [List.map_append, List.map_singleton, run_concat, run_concat,
      memory_step, ih, Event.lossless_lossless, ← memory_step]

/-! ## What the store holds -/

/-- The store is left alone, or takes over the copy that a task was saving. -/
theorem Transition.stored_cases (htransition : Transition s e t) :
    (t.kept = s.kept ∧ t.saves = s.saves) ∨
      ∃ task copy, e = .resume task true ∧ s.Saves task copy ∧
        t.kept = some copy ∧
        t.saves = s.saves + 1 := by
  cases htransition with
  | start =>
    left
    unfold begun
    rw [foldl_launch_eq]
    simp
  | shutdown hrunning => exact .inl (by simp [shutdown_eq hrunning])
  | resend id r claimed _ hclaim =>
    obtain ⟨_, _, _, _, rfl⟩ := claim_eq_some_iff.1 hclaim
    exact .inl (by simp)
  | fire generation sleeper r claimed _ _ _ _ hclaim =>
    obtain ⟨_, _, _, _, rfl⟩ := claim_eq_some_iff.1 hclaim
    exact .inl (by simp [woken])
  | exhaust => exact .inl ⟨rfl, rfl⟩
  | catchUp task saved id rest resent watching r claimed _ _ hclaim =>
    obtain ⟨_, _, _, _, rfl⟩ := claim_eq_some_iff.1 hclaim
    exact .inl (by simp)
  | chore task saved old left u htask _ hchore =>
    cases hchore with
    | write copy next hsaved =>
      subst hsaved
      exact .inr ⟨task, copy, rfl, ⟨left, htask⟩, by simp, by simp⟩
    | _ => exact .inl (by simp)
  | _ => exact .inl (by simp)

/-- A save that began after some events and is under way: nobody was saving, a
task took its copy of the ledger, and it has been saving that copy since. -/
structure SaveSpans (start : Service) (before : List Event) (task : Nat)
    (saved : Bool) (between : List Event) : Prop where
  free : (start.run before).isWriting = false
  saving : ∀ part, part <+: between →
    (start.run (before ++ .resume task saved :: part)).Saves task
      (start.run before).ledger

variable {start : Service}

/-- What a task is saving is the ledger as it was when the save began. -/
theorem saveSpans_of_saves (hstart : start.Fresh) {events : List Event}
    (hsaves : (start.run events).Saves task copy) :
    ∃ before saved between, events = before ++ .resume task saved :: between ∧
      start.SaveSpans before task saved between ∧
      copy = (start.run before).ledger := by
  induction events using List.reverseRecOn with
  | nil =>
    obtain ⟨next, htask⟩ := hsaves
    simp [hstart.tasks] at htask
  | append_singleton events e ih =>
    have hsaving := saving_run hstart.saving events
    have hcourse := course_step (start.run events) e
    rw [← run_concat] at hcourse
    rcases hcourse.saves_cases hsaving hsaves with hold |
      ⟨hfree, rfl, saved, _, rfl, _⟩
    · obtain ⟨before, saved, between, rfl, hspans, rfl⟩ := ih hold
      refine ⟨before, saved, between ++ [e], by simp, ⟨hspans.free, ?_⟩, rfl⟩
      intro part hpart
      rcases List.prefix_concat_iff.1 hpart with rfl | hpart
      · simpa using hsaves
      · exact hspans.saving part hpart
    · refine ⟨events, saved, [], rfl, ⟨hfree, ?_⟩, rfl⟩
      intro part hpart
      rw [List.prefix_nil.1 hpart]
      exact hsaves

/-- The store holds the copy that the latest of some saves took over, and no
other save has taken place since the beginning or since that one. -/
def Stored (start : Service) (events : List Event) : Prop :=
  (start.run events).kept = start.kept ∧
    (start.run events).saves = start.saves ∨
    ∃ before task saved between after,
      events = before ++ .resume task saved ::
        (between ++ .resume task true :: after) ∧
      start.SaveSpans before task saved between ∧
      (start.run events).kept = some (start.run before).ledger ∧
      (start.run events).saves =
        (start.run (before ++ .resume task saved :: between)).saves + 1

theorem stored_run (hstart : start.Fresh) (events : List Event) :
    start.Stored events := by
  induction events using List.reverseRecOn with
  | nil => exact .inl ⟨rfl, rfl⟩
  | append_singleton events e ih =>
    have htransition := transition_step (start.run events) e
    rw [← run_concat] at htransition
    rcases htransition.stored_cases with
      ⟨hkept, hsaves⟩ | ⟨task, copy, rfl, hcopy, hkept, hsaves⟩
    · rcases ih with
        ⟨hfirst, hnone⟩ |
          ⟨before, task, saved, between, after, rfl, hspans, hcopy, hone⟩
      · exact .inl ⟨hkept.trans hfirst, hsaves.trans hnone⟩
      · exact .inr ⟨before, task, saved, between, after ++ [e], by simp, hspans,
          hkept.trans hcopy, hsaves.trans hone⟩
    · obtain ⟨before, saved, between, rfl, hspans, rfl⟩ :=
        saveSpans_of_saves hstart hcopy
      exact .inr ⟨before, task, saved, between, [],
        by simp, hspans, hkept, hsaves⟩

/-- A save that takes place leaves all of the ledger in the store, as it was
when the save began. -/
theorem SaveSpans.kept {before between : List Event} {saved : Bool}
    (hspans : start.SaveSpans before task saved between) :
    (start.run (before ++ .resume task saved ::
      (between ++ [.resume task true]))).kept =
      some (start.run before).ledger := by
  obtain ⟨next, htask⟩ := hspans.saving between (List.prefix_refl between)
  rw [← List.cons_append, ← List.append_assoc, run_concat, step_of_writes htask]
  simp

/-- Two services that cannot be told apart but by their stores. -/
structure Alike (s t : Service) : Prop where
  records : s.ledger.records = t.ledger.records
  counters : s.ledger.attempts = t.ledger.attempts
  timers : s.scheduler = t.scheduler
  subscriptions : s.subscriptions = t.subscriptions
  sent : s.outbox = t.outbox
  answers : ∀ task, s.answer? task = t.answer? task
  started : s.start?.map memory = t.start?.map memory
  rest : s.memory = t.memory

theorem alike_of_memory (hsame : s.memory = t.memory) : s.Alike t where
  records := congrArg (fun u => u.ledger.records) hsame
  counters := congrArg (fun u => u.ledger.attempts) hsame
  timers := congrArg (fun u => u.scheduler) hsame
  subscriptions := congrArg (fun u => u.subscriptions) hsame
  sent := congrArg (fun u => u.outbox) hsame
  answers := fun task => congrArg (fun u => u.answer? task) hsame
  started := by rw [← memory_start?, ← memory_start?, hsame]
  rest := hsame

/-- Whichever saves fail in a run, at its end the service cannot be told from
one whose saves all took place, but by the store.  That holds the whole ledger
as it was when the latest save that took place began, or what it held at the
beginning; so the first save that takes place leaves in it what it would hold
had none failed before. -/
theorem alike_despite_failures (hstart : start.Fresh) (events : List Event) :
    (start.run (events.map Event.lossless)).Alike (start.run events) ∧
    start.Stored events ∧
    ∀ before task saved between,
      events = before ++ .resume task saved ::
        (between ++ [.resume task true]) →
      start.SaveSpans before task saved between →
      (start.run events).kept =
        some (start.run (before.map Event.lossless)).ledger := by
  refine ⟨alike_of_memory (memory_run start events),
    stored_run hstart events, ?_⟩
  rintro before task saved between rfl hspans
  have hbefore := memory_run start before
  have hledger : (start.run (before.map Event.lossless)).ledger =
      (start.run before).ledger :=
    congrArg (fun u => u.ledger) hbefore
  rw [hledger]
  exact hspans.kept

/-- A service that has neither a message nor a store to load one from. -/
def unused : Service :=
  .new .standard (.restored none 0) default 0

/-- Two messages are registered one after the other; the save after the first
fails. -/
def firstLost : List Event :=
  [.register (.waiting ⟨"m1"⟩), .resume 0 true, .resume 0 false,
    .register (.waiting ⟨"m2"⟩), .resume 1 true, .resume 1 true]

/-- The save that follows the second registration makes up for the one that
failed. -/
theorem alike_despite_failures_firstLost :
    unused.Fresh ∧ unused.SaveSpans (firstLost.take 4) 1 true [] ∧
    (unused.run (firstLost.map Event.lossless)).Alike (unused.run firstLost) ∧
    unused.Stored firstLost ∧
    (unused.run firstLost).kept =
      some (unused.run ((firstLost.take 4).map Event.lossless)).ledger ∧
    ((unused.run firstLost).kept.map fun l => l.records.keys) =
      some [⟨"m1"⟩, ⟨"m2"⟩] ∧
    (unused.run (firstLost.map Event.lossless)).saves = 2 ∧
    (unused.run firstLost).saves = 1 := by
  have hfresh : unused.Fresh := fresh_new .standard none 0 default 0
  have hspans : unused.SaveSpans (firstLost.take 4) 1 true [] := by
    refine ⟨by decide, ?_⟩
    intro part hpart
    rw [List.prefix_nil.1 hpart]
    exact ⟨.answer 0, by decide⟩
  obtain ⟨halike, hstored, hkept⟩ := alike_despite_failures hfresh firstLost
  exact ⟨hfresh, hspans, halike, hstored,
    hkept (firstLost.take 4) 1 true [] rfl hspans,
    by decide, by decide, by decide⟩

end Service

end Redelivery
