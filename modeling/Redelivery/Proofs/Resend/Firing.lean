import Mathlib.Data.List.Induction
import Redelivery.Proofs.Resend.Delivery
import Redelivery.Proofs.Resend.Journal

/-!
# Timers send for the latest status

Generations are given out once.  So a timer that claims an attempt is the one
that was armed when a record was last applied to its message, and its generation
is spent then, as it is when a later record takes its place.  Whatever waits for
the time of a spent generation claims nothing, in whatever order it comes.
-/

namespace Redelivery

namespace Scheduler

/-- What the second of two schedulers holds and the first does not was armed
since. -/
structure Grows (s t : Scheduler) : Prop where
  generations : s.nextGeneration ≤ t.nextGeneration
  timers : ∀ id timer, t.timers.get? id = some timer →
    s.timers.get? id = some timer ∨ s.nextGeneration ≤ timer.generation
  sleepers : ∀ generation sleeper, t.sleepers.get? generation = some sleeper →
    s.sleepers.get? generation = some sleeper ∨ s.nextGeneration ≤ generation

/-- A generation was given out, and no timer has it any more. -/
structure Spent (s : Scheduler) (generation : Nat) : Prop where
  used : generation < s.nextGeneration
  gone : ∀ id timer, s.timers.get? id = some timer →
    timer.generation ≠ generation

variable {s t u : Scheduler} {id : MessageId} {generation : Nat}

theorem Grows.refl (s : Scheduler) : s.Grows s :=
  ⟨Nat.le_refl _, fun _ _ => .inl, fun _ _ => .inl⟩

theorem Grows.trans (hfirst : s.Grows t) (hthen : t.Grows u) : s.Grows u where
  generations := Nat.le_trans hfirst.generations hthen.generations
  timers := by
    intro id timer htimer
    rcases hthen.timers id timer htimer with hbefore | hnew
    · exact hfirst.timers id timer hbefore
    · exact .inr (Nat.le_trans hfirst.generations hnew)
  sleepers := by
    intro generation sleeper hsleeper
    rcases hthen.sleepers generation sleeper hsleeper with hbefore | hnew
    · exact hfirst.sleepers generation sleeper hbefore
    · exact .inr (Nat.le_trans hfirst.generations hnew)

/-- Taking timers and what waits for them away. -/
theorem Grows.of_fewer (hgenerations : t.nextGeneration = s.nextGeneration)
    (htimers : ∀ id timer, t.timers.get? id = some timer →
      s.timers.get? id = some timer)
    (hsleepers : ∀ generation sleeper,
      t.sleepers.get? generation = some sleeper →
      s.sleepers.get? generation = some sleeper) : s.Grows t :=
  ⟨Nat.le_of_eq hgenerations.symm,
    fun id timer htimer => .inl (htimers id timer htimer),
    fun generation sleeper hsleeper =>
      .inl (hsleepers generation sleeper hsleeper)⟩

theorem grows_cancel (s : Scheduler) (id : MessageId) :
    s.Grows (s.cancel id) := by
  cases hnone : s.timers.get? id with
  | none =>
    rw [cancel_of_get?_eq_none hnone]
    exact .refl s
  | some timer =>
    refine .of_fewer (nextGeneration_cancel s id) ?_ ?_
    · intro id' timer' htimer
      rw [timers_cancel] at htimer
      split at htimer
      next => cases htimer
      next => exact htimer
    · intro generation sleeper hsleeper
      rw [sleepers_cancel_of_get? hnone] at hsleeper
      split at hsleeper
      next => cases hsleeper
      next => exact hsleeper

theorem grows_arm (s : Scheduler) (now : Nat) (id : MessageId)
    (delay : UInt64) :
    s.Grows (s.arm now id delay) := by
  have hcleared := grows_cancel s id
  refine ⟨Nat.le_succ _, ?_, ?_⟩
  · intro id' timer htimer
    rw [timers_arm] at htimer
    split at htimer
    next =>
      cases htimer
      exact .inr (Nat.le_refl _)
    next => exact .inl htimer
  · intro generation sleeper hsleeper
    simp only [arm, Table.get?_insert] at hsleeper
    split at hsleeper
    next hnew => exact .inr (Nat.le_of_eq hnew.symm)
    next => exact hcleared.sleepers generation sleeper hsleeper

theorem grows_wake (s : Scheduler) (generation : Nat) :
    s.Grows (s.wake generation) := by
  refine .of_fewer rfl (fun _ _ htimer => htimer) ?_
  intro generation' sleeper hsleeper
  simp only [wake, Table.get?_erase] at hsleeper
  split at hsleeper
  next => cases hsleeper
  next => exact hsleeper

theorem grows_complete (s : Scheduler) (id : MessageId) (generation : Nat) :
    s.Grows (s.complete id generation) := by
  unfold complete
  split
  next =>
    refine .of_fewer rfl ?_ fun _ _ hsleeper => hsleeper
    intro id' timer htimer
    simp only [Table.get?_erase] at htimer
    split at htimer
    next => cases htimer
    next => exact htimer
  next => exact .refl s

theorem grows_cancelAll (s : Scheduler) : s.Grows s.cancelAll :=
  List.foldlRecOn s.timers.keys cancel (.refl s) fun t ht id _ =>
    ht.trans (grows_cancel t id)

/-- A spent generation stays so. -/
theorem Spent.grows (hspent : s.Spent generation) (hgrows : s.Grows t) :
    t.Spent generation where
  used := Nat.lt_of_lt_of_le hspent.used hgrows.generations
  gone := by
    intro id timer htimer
    rcases hgrows.timers id timer htimer with hbefore | hnew
    · exact hspent.gone id timer hbefore
    · exact fun same => Nat.not_le_of_lt hspent.used (same ▸ hnew)

theorem Matched.used (hmatched : s.Matched) {sleeper : Sleeper}
    (hsleeper : s.sleepers.get? generation = some sleeper) :
    generation < s.nextGeneration := by
  refine Nat.lt_of_not_le fun hunused => ?_
  rw [hmatched.unused generation hunused] at hsleeper
  cases hsleeper

theorem Matched.generation_lt (hmatched : s.Matched) {timer : Timer}
    (htimer : s.timers.get? id = some timer) :
    timer.generation < s.nextGeneration := by
  obtain ⟨due, hsleeper⟩ := hmatched.waiting id timer htimer
  exact hmatched.used hsleeper

/-- Where the timer of a message is replaced or taken away, its generation is
spent. -/
theorem Matched.spent (hmatched : s.Matched) {timer : Timer}
    (htimer : s.timers.get? id = some timer) (hgrows : s.Grows t)
    (hgone : ∀ timer', t.timers.get? id = some timer' →
      s.nextGeneration ≤ timer'.generation) :
    t.Spent timer.generation where
  used := Nat.lt_of_lt_of_le (hmatched.generation_lt htimer) hgrows.generations
  gone := by
    have hused := hmatched.generation_lt htimer
    intro id' timer' htimer'
    by_cases hsame : id' = id
    · rw [hsame] at htimer'
      exact fun same => Nat.not_le_of_lt hused (same ▸ hgone timer' htimer')
    · rcases hgrows.timers id' timer' htimer' with hbefore | hnew
      · exact hmatched.generation_ne htimer hbefore hsame
      · exact fun same => Nat.not_le_of_lt hused (same ▸ hnew)

end Scheduler

namespace Service

variable {s t start : Service} {e : Event} {id : MessageId} {r : Record}
  {generation : Nat}
  {a : Attempt}

theorem grows_apply (hrunning : s.shutDown = false) (r : Record)
    (origin : Option Nat) :
    s.scheduler.Grows (s.apply r origin).scheduler := by
  rw [scheduler_apply hrunning]
  split
  next => exact Scheduler.grows_arm ..
  next => exact Scheduler.grows_cancel ..

/-- Whatever happens, a generation is given out once. -/
theorem Transition.grows (htransition : Transition s e t) :
    s.scheduler.Grows t.scheduler := by
  have hsame := Scheduler.Grows.refl s.scheduler
  cases htransition with
  | shutdown hrunning =>
    rw [shutdown_eq hrunning]
    exact Scheduler.grows_cancelAll _
  | retire r hrunning =>
    exact grows_apply (s := s.spawn (.save (.answer 0))) hrunning r none
  | enroll r hrunning =>
    simp only [attach_frame]
    exact grows_apply (s := s.spawn (.save (.answer 0))) hrunning r none
  | restate task saved cursor seen status r hhears =>
    simp only [setRoutine_frame]
    exact grows_apply hhears.running _ (some task)
  | resend id r claimed _ hclaim =>
    obtain ⟨_, _, _, _, rfl⟩ := claim_eq_some_iff.1 hclaim
    exact hsame
  | catchUp task saved id rest resent watching r claimed _ _ hclaim =>
    obtain ⟨_, _, _, _, rfl⟩ := claim_eq_some_iff.1 hclaim
    simpa using hsame
  | lapse generation => exact Scheduler.grows_wake _ generation
  | exhaust generation sleeper =>
    exact (Scheduler.grows_wake _ generation).trans
      (Scheduler.grows_complete _ sleeper.id generation)
  | fire generation sleeper r claimed _ _ _ _ hclaim =>
    obtain ⟨_, _, _, _, rfl⟩ := claim_eq_some_iff.1 hclaim
    exact (Scheduler.grows_wake _ generation).trans
      (Scheduler.grows_complete _ sleeper.id generation)
  | chore task saved old left u _ _ hchore => cases hchore <;> simpa using hsame
  | start | hear | rescan | drop | leave => simpa using hsame
  | _ => exact hsame

theorem grows_run (s : Service) (events : List Event) :
    s.scheduler.Grows (s.run events).scheduler :=
  run_induction (P := fun t => s.scheduler.Grows t.scheduler) (.refl _)
    fun _ _ _ _ htransition ht => ht.trans htransition.grows

/-! ## What becomes of a timer -/

/-- A record that is applied arms a timer of the next generation, or takes the
timer away. -/
theorem Applies.scheduler_eq (happlies : s.Applies e r) :
    (s.step e).scheduler =
      match (r.status.classify s.config).timer with
      | .arm delay => s.scheduler.arm s.clock r.id delay
      | .cancel => s.scheduler.cancel r.id := by
  cases happlies with
  | register r hrunning =>
    have happlied :=
      scheduler_apply (s := s.spawn (.save (.answer 0))) hrunning r none
    simp only [step, Service.register, hrunning, Bool.false_eq_true, if_false]
    split
    next => exact happlied
    next => exact (attach_frame ..).2.2.1.trans happlied
  | follow task saved cursor seen status r hhears =>
    rw [step_of_hears hhears]
    simp only [setRoutine_frame]
    exact scheduler_apply hhears.running (r.withStatus status) (some task)

/-- What a timer needs to claim an attempt. -/
theorem claimed?_wake (hclaimed : s.claimed? (.wake generation) = some a) :
    ∃ due delay, s.scheduler.sleepers.get? generation = some ⟨a.id, due⟩ ∧
      due ≤ s.clock ∧
      s.scheduler.timers.get? a.id = some ⟨generation, delay⟩ := by
  simp only [claimed?] at hclaimed
  split at hclaimed
  next sleeper hsleeper =>
    split at hclaimed
    next hready =>
      obtain ⟨_, _, _, _, rfl⟩ := attempt?_eq_some_iff.1 hclaimed
      obtain ⟨delay, htimer⟩ := Scheduler.isCurrent_iff.1 hready.2
      exact ⟨sleeper.due, delay, hsleeper, hready.1, htimer⟩
    next => cases hclaimed
  next => cases hclaimed

/-- A spent generation claims nothing. -/
theorem claimed?_of_spent (hspent : s.scheduler.Spent generation) :
    s.claimed? (.wake generation) = none := by
  cases hclaimed : s.claimed? (.wake generation) with
  | none => rfl
  | some a =>
    obtain ⟨_, _, _, _, htimer⟩ := claimed?_wake hclaimed
    exact absurd rfl (hspent.gone _ _ htimer)

/-- A timer that claims an attempt has spent its generation. -/
theorem Coherent.spent_of_claimed (hs : s.Coherent)
    (hclaimed : s.claimed? (.wake generation) = some a) :
    (s.step (.wake generation)).scheduler.Spent generation := by
  obtain ⟨due, delay, hsleeper, hdue, htimer⟩ := claimed?_wake hclaimed
  refine hs.matched.spent htimer (transition_step s (.wake generation)).grows ?_
  intro timer' htimer'
  rw [claimed?, hsleeper] at hclaimed
  have hcurrent := Scheduler.isCurrent_iff.2 ⟨delay, htimer⟩
  simp only [hdue, hcurrent, and_self, if_true] at hclaimed
  obtain ⟨hrunning, r, u, hclaim, _⟩ := attempt?_eq_some_iff.1 hclaimed
  rw [step_of_fires hsleeper hdue hcurrent hrunning hclaim] at htimer'
  obtain ⟨_, _, _, _, rfl⟩ := claim_eq_some_iff.1 hclaim
  have hgone :
      ((s.scheduler.wake generation).complete a.id generation).timers.get?
        a.id =
      some timer' := htimer'
  rw [Scheduler.timers_complete_wake hcurrent, if_pos rfl] at hgone
  cases hgone

/-- A record that is applied spends the generation of the timer before it. -/
theorem Coherent.spent_of_applies (hs : s.Coherent) (happlies : s.Applies e r)
    {timer : Timer} (htimer : s.scheduler.timers.get? r.id = some timer) :
    (s.step e).scheduler.Spent timer.generation := by
  refine hs.matched.spent htimer (transition_step s e).grows ?_
  intro timer' htimer'
  rw [happlies.scheduler_eq] at htimer'
  split at htimer'
  next =>
    rw [Scheduler.timers_arm, if_pos rfl] at htimer'
    cases htimer'
    exact Nat.le_refl _
  next =>
    rw [Scheduler.timers_cancel, if_pos rfl] at htimer'
    cases htimer'

/-! ## The record that was applied last -/

/-- After `before` the event `e` applies a record to a message, and of the
events `later` none does. -/
structure LastApplied (start : Service) (id : MessageId) (before : List Event)
    (e : Event) (later : List Event) (r : Record) : Prop where
  applies : (start.run before).Applies e r
  id_eq : r.id = id
  quiet : ∀ first e' r', first ++ [e'] <+: later →
    (start.run (before ++ e :: first)).Applies e' r' → r'.id ≠ id

/-- The record that was applied last has armed a timer, for the wait that its
status asks for. -/
structure ArmedBy (start : Service) (id : MessageId) (timer : Timer)
    (before : List Event) (e : Event) (later : List Event) (r : Record) : Prop
    extends LastApplied start id before e later r where
  interval : (r.status.classify start.config).timer = .arm timer.delay
  armed : (start.run (before ++ [e])).scheduler.timers.get? id = some timer
  waits : (start.run (before ++ e :: later)).scheduler.sleepers.get?
    timer.generation =
    some ⟨id, (start.run before).clock + sleepTime timer.delay.toNat⟩

theorem Applies.unique {r' : Record} (happlies : s.Applies e r)
    (happlies' : s.Applies e r') :
    r = r' := by
  cases happlies with
  | register =>
    cases happlies'
    rfl
  | follow task saved cursor seen status r hhears =>
    cases happlies' with
    | follow _ _ cursor' seen' status' r' hhears' =>
      cases hhears.following.symm.trans hhears'.following
      cases hhears.sighted.symm.trans hhears'.sighted
      cases hhears.live.symm.trans hhears'.live
      rfl

variable {before later before' later' happened events first : List Event}
  {e' : Event}
  {r' : Record} {timer : Timer}

theorem LastApplied.length_le (hlast : start.LastApplied id before e later r)
    (hlast' : start.LastApplied id before' e' later' r')
    (hsame : before ++ e :: later = before' ++ e' :: later') :
    before'.length ≤ before.length := by
  rcases List.append_eq_append_iff.1 hsame with ⟨between, hbefore, hlater⟩ |
    ⟨between, hbefore, _⟩
  · cases between with
    | nil => simp [hbefore]
    | cons first rest =>
      obtain ⟨rfl, rfl⟩ := List.cons_eq_cons.1 hlater
      have hthen : rest ++ [e'] <+: rest ++ e' :: later' := ⟨later', by simp⟩
      exact absurd hlast'.id_eq
        (hlast.quiet rest e' r' hthen (hbefore ▸ hlast'.applies))
  · simp [hbefore]

/-- One event is the last that applies a record to a message. -/
theorem LastApplied.unique (hlast : start.LastApplied id before e later r)
    (hlast' : start.LastApplied id before' e' later' r')
    (hsame : before ++ e :: later = before' ++ e' :: later') :
    before = before' ∧ e = e' := by
  have hlength := Nat.le_antisymm (hlast'.length_le hlast hsame.symm)
    (hlast.length_le hlast' hsame)
  obtain ⟨hbefore, hrest⟩ := List.append_inj hsame hlength
  exact ⟨hbefore, (List.cons_eq_cons.1 hrest).1⟩

theorem LastApplied.append (hlast : start.LastApplied id before e later r)
    (hquiet : ∀ r', (start.run (before ++ e :: later)).Applies e' r' →
      r'.id ≠ id) :
    start.LastApplied id before e (later ++ [e']) r where
  applies := hlast.applies
  id_eq := hlast.id_eq
  quiet := by
    intro first e'' r' hfirst happlies
    rcases List.prefix_concat_iff.1 hfirst with hwhole | hbefore
    · obtain ⟨rfl, hevent⟩ := List.append_inj' hwhole rfl
      cases hevent
      exact hquiet r' happlies
    · exact hlast.quiet first e'' r' hbefore happlies

theorem armedBy_of_applies (happlies : (start.run happened).Applies e r)
    (htimer : (start.run (happened ++ [e])).scheduler.timers.get? r.id =
      some timer) :
    start.ArmedBy r.id timer happened e [] r := by
  have hlast : start.LastApplied r.id happened e [] r :=
    ⟨happlies, rfl, by simp⟩
  have hscheduler := happlies.scheduler_eq
  rw [← run_concat, config_run] at hscheduler
  cases hasked : (r.status.classify start.config).timer with
  | cancel =>
    rw [hasked] at hscheduler
    rw [hscheduler, Scheduler.timers_cancel, if_pos rfl] at htimer
    cases htimer
  | arm delay =>
    rw [hasked] at hscheduler
    have hnew := htimer
    rw [hscheduler, Scheduler.timers_arm, if_pos rfl] at hnew
    cases hnew
    refine ⟨hlast, hasked, htimer, ?_⟩
    rw [hscheduler]
    simp [Scheduler.arm]

/-- A timer that stays is of the same record, and what waits for it waits for
the same time. -/
theorem ArmedBy.append (harmed : start.ArmedBy id timer before e later r)
    (hs : (start.run (before ++ e :: later)).Coherent)
    (hquiet : ∀ r', (start.run (before ++ e :: later)).Applies e' r' →
      r'.id ≠ id)
    (htimer : (start.run (before ++ e :: (later ++ [e']))).scheduler.timers.get?
      id = some timer) :
    start.ArmedBy id timer before e (later ++ [e']) r := by
  refine ⟨harmed.toLastApplied.append hquiet, harmed.interval, harmed.armed, ?_⟩
  have htransition := transition_step (start.run (before ++ e :: later)) e'
  have hstep : start.run (before ++ e :: (later ++ [e'])) =
      (start.run (before ++ e :: later)).step e' := by
    rw [← List.cons_append, ← List.append_assoc, run_concat]
  rw [hstep] at htimer ⊢
  obtain ⟨due, hsleeper⟩ :=
    (hs.transition htransition).matched.waiting id timer htimer
  have hused := hs.matched.used harmed.waits
  rcases htransition.grows.sleepers _ _ hsleeper with hbefore | hnew
  · rw [hsleeper, ← hbefore, harmed.waits]
  · exact absurd hnew (Nat.not_le_of_lt hused)

/-- Every timer that is armed was armed by the record that was applied last to
its message. -/
theorem armedBy_run (hstart : start.Fresh) (hkeyed : start.ledger.Keyed)
    (htimer : (start.run happened).scheduler.timers.get? id = some timer) :
    ∃ before e later r, happened = before ++ e :: later ∧
      start.ArmedBy id timer before e later r := by
  induction happened using List.reverseRecOn generalizing id timer with
  | nil => simp [hstart.scheduler, Scheduler.empty] at htimer
  | append_singleton happened e ih =>
    have hs := (hstart.coherent hkeyed).run happened
    by_cases happlied : ∃ r, (start.run happened).Applies e r ∧ r.id = id
    · obtain ⟨r, happlies, rfl⟩ := happlied
      exact ⟨happened, e, [], r, rfl, armedBy_of_applies happlies htimer⟩
    · have hquiet : ∀ r, (start.run happened).Applies e r → r.id ≠ id :=
        fun r happlies hsame => happlied ⟨r, happlies, hsame⟩
      have hstays :
          (start.run happened).scheduler.timers.get? id = some timer := by
        rw [run_concat] at htimer
        rcases (transition_step (start.run happened) e).timers_of_quiet hquiet
          with hsame | hgone
        · rw [← hsame, htimer]
        · cases hgone.symm.trans htimer
      obtain ⟨before, first, later, r, rfl, harmed⟩ := ih hstays
      refine ⟨before, first, later ++ [e], r,
        by simp, harmed.append hs hquiet ?_⟩
      simpa using htimer

/-! ## Messages that timers send -/

/-- After the events `first` a timer's time comes and it claims an attempt, for
which the message is handed over. -/
structure SentByTimer (start : Service) (events first : List Event)
    (generation : Nat) (a : Attempt) : Prop where
  fires : first ++ [.wake generation] <+: events
  claims : (start.run first).claimed? (.wake generation) = some a
  sent : (((Journal.opened start).run first).claims.length, a) ∈
    ((Journal.opened start).run events).sent

/-- One generation claims once. -/
theorem length_le_of_claimed (hs : start.Coherent) {first' : List Event}
    {a' : Attempt} (hfires : first ++ [.wake generation] <+: events)
    (hclaimed : (start.run first).claimed? (.wake generation) = some a)
    (hfires' : first' ++ [.wake generation] <+: events)
    (hclaimed' : (start.run first').claimed? (.wake generation) = some a') :
    first'.length ≤ first.length := by
  refine Nat.le_of_not_lt fun hlonger => ?_
  have hbefore : first' <+: events := (List.prefix_append _ _).trans hfires'
  have hthen : first ++ [.wake generation] <+: first' :=
    List.prefix_of_prefix_length_le hfires hbefore (by
      rw [List.length_append]
      exact hlonger)
  obtain ⟨between, rfl⟩ := hthen
  have hspent :=
    ((hs.run first).spent_of_claimed hclaimed).grows (grows_run _ between)
  have hsame : start.run (first ++ [.wake generation] ++ between) =
      ((start.run first).step (.wake generation)).run between := by
    rw [run_append, run_concat]
  rw [hsame, claimed?_of_spent hspent] at hclaimed'
  cases hclaimed'

/-- A record that was applied has led to one message from a timer at most, since
a single event arms a single timer. -/
theorem SentByTimer.first_eq (hstart : start.Fresh)
    (hkeyed : start.ledger.Keyed) {later' : List Event} {generation' : Nat}
    {a' : Attempt} {delay : UInt64}
    (hsent : start.SentByTimer events (before ++ e :: later) generation a)
    (harmed : start.ArmedBy a.id ⟨generation, delay⟩ before e later r)
    (hlast' : start.LastApplied a'.id before e later' r')
    (hsent' : start.SentByTimer events (before ++ e :: later') generation' a') :
    before ++ e :: later' = before ++ e :: later := by
  have hs := hstart.coherent hkeyed
  obtain ⟨_, delay', _, _, htimer'⟩ := claimed?_wake hsent'.claims
  obtain ⟨before'', e'', later'', r'', hsame, harmed'⟩ :=
    armedBy_run hstart hkeyed htimer'
  obtain ⟨rfl, rfl⟩ := hlast'.unique harmed'.toLastApplied hsame
  have hid : a'.id = a.id := by
    rw [← hlast'.id_eq, ← harmed.id_eq, hlast'.applies.unique harmed.applies]
  have hgeneration : generation' = generation := by
    have harmed' := harmed'.armed
    rw [hid, harmed.armed] at harmed'
    cases harmed'
    rfl
  subst hgeneration
  have hlength := Nat.le_antisymm
    (length_le_of_claimed hs hsent.fires hsent.claims hsent'.fires
      hsent'.claims)
    (length_le_of_claimed hs hsent'.fires hsent'.claims hsent.fires
      hsent.claims)
  have hbefore' := (List.prefix_append _ _).trans hsent'.fires
  have hbefore := (List.prefix_append _ _).trans hsent.fires
  exact (List.prefix_of_prefix_length_le hbefore' hbefore
    (Nat.le_of_eq hlength)).eq_of_length hlength

/-- In every run over a ledger with every record under its own id, what a timer
sends is sent for the record that was last applied to the message.  The timer is
the one that was armed then, for a status that allows it; it claims its attempt
when the wait that this status asks for is over, and what is sent is what the
ledger holds at that time.  Each record that is applied leads to one message
from a timer at most, and the timer that it finds never claims an attempt any
more. -/
theorem sent_for_latest (hstart : start.Fresh) (hkeyed : start.ledger.Keyed)
    (events : List Event) :
    ((Journal.opened start).run events).Accounts start ∧
    (∀ first generation a, start.SentByTimer events first generation a →
      ∃ before e later r delay, first = before ++ e :: later ∧
        start.ArmedBy a.id ⟨generation, delay⟩ before e later r ∧
        r.status.rearmAllowed = true ∧
        (start.run before).clock + sleepTime delay.toNat ≤
          (start.run first).clock ∧
        (delay.toNat ≤ sleepTime delay.toNat →
          (start.run before).clock + delay.toNat ≤ (start.run first).clock) ∧
        (start.run first).record? a.id = some a.record ∧
        ∀ later' r' generation' a', start.LastApplied a'.id before e later' r' →
          start.SentByTimer events (before ++ e :: later') generation' a' →
          before ++ e :: later' = first) ∧
    ∀ before e r timer, (start.run before).Applies e r →
      (start.run before).scheduler.timers.get? r.id = some timer →
      ∀ later, (start.run (before ++ e :: later)).claimed?
        (.wake timer.generation) = none := by
  have hs := hstart.coherent hkeyed
  refine ⟨((Journal.orderly_opened hstart).run events).toAccounts, ?_, ?_⟩
  · intro first generation a hsent
    obtain ⟨due, delay, hsleeper, hdue, htimer⟩ := claimed?_wake hsent.claims
    obtain ⟨before, e, later, r, rfl, harmed⟩ :=
      armedBy_run hstart hkeyed htimer
    cases hsleeper.symm.trans harmed.waits
    exact ⟨before, e, later, r, delay, rfl, harmed,
      DeliveryStatus.rearmAllowed_of_arm harmed.interval, hdue,
      fun hlasts => Nat.le_trans (Nat.add_le_add_left hlasts _) hdue,
      (claims_step hsent.claims).live,
      fun _ _ _ _ hlast' hsent' =>
        hsent.first_eq hstart hkeyed harmed hlast' hsent'⟩
  · intro before e r timer happlies htimer later
    have hspent := ((hs.run before).spent_of_applies happlies htimer).grows
      (grows_run _ later)
    rw [run_append, run_cons]
    exact claimed?_of_spent hspent

def blank : Service :=
  .new .standard (.restored none 0) default 0

def waited : List Event :=
  [.register (.waiting ⟨"m1"⟩), .pass 120000]

/-- The timer claims an attempt, saves and sends. -/
def sentAgain : List Event :=
  waited ++ [.wake 0, .resume 1 true, .resume 1 true, .resume 1 true]

theorem sent_for_latest_waiting :
    blank.SentByTimer sentAgain waited 0
      ⟨1, ⟨"m1"⟩, .automatic, .waiting ⟨"m1"⟩, 2⟩ ∧
    (∃ before e later r delay, waited = before ++ e :: later ∧
      blank.ArmedBy ⟨"m1"⟩ ⟨0, delay⟩ before e later r ∧
      (blank.run before).clock + sleepTime delay.toNat ≤
        (blank.run waited).clock) ∧
    ∀ later, (blank.run (.register (.waiting ⟨"m1"⟩) ::
      .register (.waiting ⟨"m1"⟩) :: later)).claimed? (.wake 0) = none := by
  have hfresh : blank.Fresh := fresh_new .standard none 0 default 0
  obtain ⟨_, hsends, hsuperseded⟩ :=
    sent_for_latest hfresh Ledger.keyed_empty sentAgain
  have hsent : blank.SentByTimer sentAgain waited 0
      ⟨1, ⟨"m1"⟩, .automatic, .waiting ⟨"m1"⟩, 2⟩ :=
    ⟨⟨[.resume 1 true, .resume 1 true, .resume 1 true], rfl⟩,
      by decide, by decide⟩
  obtain ⟨before, e, later, r, delay, hsplit, harmed, _, htime, _⟩ :=
    hsends _ _ _ hsent
  refine ⟨hsent, ⟨before, e, later, r, delay, hsplit, harmed, htime⟩,
    fun later => ?_⟩
  exact hsuperseded [.register (.waiting ⟨"m1"⟩)] (.register (.waiting ⟨"m1"⟩))
    _ ⟨0, 120000⟩ (.register _ (by decide)) (by decide) later

end Service

end Redelivery
