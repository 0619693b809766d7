import Redelivery.Proofs.Resend.Runs

/-!
# Claimed attempts

An attempt is claimed where the user asks for it, where a timer's time has come
and where a sweep comes to its next candidate.  The task that claims it saves
the ledger and then hands the message over.  `Course` is what an event does to
all this: counters and records, the saves, the outbox, and the tasks that save
or owe a message.
-/

namespace Redelivery

/-- An attempt that is claimed: by which task, for which message and against
which bound, with the record that is to be sent and the counter that the claim
leads to. -/
structure Attempt where
  task : Nat
  id : MessageId
  bound : ResendBound
  record : Record
  count : UInt32
deriving DecidableEq

namespace Routine

/-- Whether a task takes no copy of the ledger along. -/
def isPlain : Routine → Bool
  | save next | send _ next => next.isPlain
  | write .. => false
  | _ => true

/-- A routine that owes no message and takes no copy of the ledger along. -/
structure Clear (routine : Routine) : Prop where
  owed : routine.owed = []
  plain : routine.isPlain = true

theorem clear_afterSweep (resent : Nat) (watching : Option NodeCursor) :
    (afterSweep resent watching).Clear := by
  cases watching <;> exact ⟨rfl, rfl⟩

end Routine

theorem le_nextCount (n : UInt32) : n ≤ nextCount n := by
  unfold nextCount
  split
  next hsmall =>
    have hsum : (n + 1).toNat = n.toNat + 1 := by
      rw [UInt32.toNat_add]
      exact Nat.mod_eq_of_lt hsmall
    rw [UInt32.le_iff_toNat_le, hsum]
    omega
  next => exact UInt32.le_refl n

theorem toNat_nextCount {n : UInt32} (hsmall : n.toNat < UInt32.size - 1) :
    (nextCount n).toNat = n.toNat + 1 := by
  have hsmall : n.toNat + 1 < UInt32.size := by omega
  rw [nextCount, if_pos hsmall, UInt32.toNat_add]
  exact Nat.mod_eq_of_lt hsmall

namespace Service

/-- How often a message was attempted; one without a counter was sent once. -/
def made (s : Service) (id : MessageId) : Nat :=
  (attemptsMade (s.attempts? id)).toNat

/-- The attempt that a task would claim. -/
def attempt? (s : Service) (task : Nat) (id : MessageId) (bound : ResendBound)
    (sweeping : Bool) : Option Attempt :=
  if s.shutDown then none
  else (s.claim id bound sweeping).map fun claimed =>
    ⟨task, id, bound, claimed.1, nextCount (attemptsMade (s.attempts? id))⟩

def claimed? (s : Service) : Event → Option Attempt
  | .resend id => s.attempt? s.nextTask id .manual false
  | .wake generation =>
    match s.scheduler.sleepers.get? generation with
    | some sleeper =>
      if sleeper.due ≤ s.clock ∧
        s.scheduler.isCurrent sleeper.id generation = true then
        (s.woken generation sleeper.id).attempt? s.nextTask sleeper.id
          .automatic false
      else none
    | none => none
  | .resume task _ =>
    match s.tasks.get? task with
    | some (.sweep (id :: _) _ _) => s.attempt? task id .automatic true
    | _ => none
  | _ => none

def sender? (s : Service) : Event → Option Nat
  | .resume task _ =>
    match s.tasks.get? task with
    | some (.send _ _) => some task
    | _ => none
  | _ => none

/-- What claiming an attempt does. -/
structure Claims (s : Service) (a : Attempt) (t : Service) : Prop where
  live : s.record? a.id = some a.record
  within : attemptsMade (s.attempts? a.id) ≤ a.bound.limit s.config
  count : a.count = nextCount (attemptsMade (s.attempts? a.id))
  ledger : t.ledger = s.ledger.setAttempts a.id a.count
  kept : t.kept = s.kept
  outbox : t.outbox = s.outbox
  task : ∃ next, next.Clear ∧
    t.tasks.get? a.task = some (.save (.send a.record next))
  others : ∀ task, task ≠ a.task → t.tasks.get? task = s.tasks.get? task

/-- Every task holds what it held before, or something that neither owes nor
saves. -/
def Adds (s t : Service) : Prop :=
  ∀ task routine, t.tasks.get? task = some routine →
    s.tasks.get? task = some routine ∨ routine.Clear

/-- What an event does to the attempts. -/
inductive Course (s : Service) : Event → Service → Prop
  | claim {e : Event} {t : Service} (a : Attempt)
      (hclaimed : s.claimed? e = some a) (hsender : s.sender? e = none)
      (hclaims : Claims s a t) : Course s e t
  /-- A task takes a copy of the ledger and begins to save it. -/
  | copy (task : Nat) (saved : Bool) (next : Routine)
      (htask : s.tasks.get? task = some (.save next))
      (hfree : s.isWriting = false) :
      Course s (.resume task saved) (s.setRoutine task (.write s.ledger next))
  | keep (task : Nat) (copy : Ledger) (next : Routine)
      (htask : s.tasks.get? task = some (.write copy next)) :
      Course s (.resume task true)
        (({ s with kept := some copy, saves := s.saves + 1 } :
          Service).setRoutine task next)
  | lose (task : Nat) (copy : Ledger) (next : Routine)
      (htask : s.tasks.get? task = some (.write copy next)) :
      Course s (.resume task false) (s.setRoutine task next)
  | send (task : Nat) (saved : Bool) (r : Record) (next : Routine)
      (htask : s.tasks.get? task = some (.send r next)) :
      Course s (.resume task saved)
        (({ s with outbox := s.outbox ++ [⟨s.clock, r⟩] } : Service).setRoutine
          task next)
  | quiet {e : Event} {t : Service} (hclaimed : s.claimed? e = none)
      (hsender : s.sender? e = none)
      (hledger : t.ledger = s.ledger ∨ ∃ r, s.Applies e r ∧
        t.ledger = if r.status.isReceived then s.ledger.remove r.id
          else s.ledger.upsert r)
      (hkept : t.kept = s.kept) (houtbox : t.outbox = s.outbox)
      (htasks : Adds s t) :
      Course s e t

variable {s t u : Service} {e : Event} {id : MessageId} {a : Attempt}
  {task : Nat}

/-! ## Tasks that owe nothing -/

theorem Adds.of_same (hsame : ∀ task, t.tasks.get? task = s.tasks.get? task) :
    Adds s t := by
  intro task routine htask
  rw [hsame] at htask
  exact .inl htask

theorem Adds.trans (hfirst : Adds s t) (hsecond : Adds t u) : Adds s u := by
  intro task routine htask
  rcases hsecond task routine htask with hbefore | hclear
  · exact hfirst task routine hbefore
  · exact .inr hclear

theorem adds_spawn {routine : Routine} (hclear : routine.Clear) :
    Adds s (s.spawn routine) := by
  intro task routine' htask
  rw [tasks_spawn] at htask
  split at htask
  next =>
    cases htask
    exact .inr hclear
  next => exact .inl htask

theorem adds_setRoutine {routine : Routine} (hclear : routine.Clear)
    (task : Nat) :
    Adds s (s.setRoutine task routine) := by
  intro task' routine' htask
  rw [tasks_setRoutine] at htask
  split at htask
  next =>
    split at htask
    next => cases htask
    next =>
      cases htask
      exact .inr hclear
  next => exact .inl htask

theorem adds_apply (r : Record) (origin : Option Nat) :
    Adds s (s.apply r origin) := by
  intro task routine htask
  rw [tasks_apply] at htask
  split at htask
  next => cases htask
  next => exact .inl htask

theorem adds_attach (s : Service) (id : MessageId) : Adds s (s.attach id) := by
  rcases attach_cases s id with ⟨hsame, _⟩ | ⟨stream, _, _, _, hattach⟩
  · rw [hsame]
    exact .of_same fun _ => rfl
  · rw [hattach]
    have hclear : (Routine.follow (s.firstCursor id stream)).Clear := ⟨rfl, rfl⟩
    exact adds_spawn hclear

theorem adds_attachTracked (s : Service) (id : MessageId) :
    Adds s (s.attachTracked id) :=
  attachTracked_elim (.of_same fun _ => rfl) fun _ => adds_attach s id

theorem adds_attachKnown (s : Service) : Adds s s.attachKnown :=
  attachKnown_induction (.of_same fun _ => rfl) fun t id ht =>
    ht.trans (adds_attachTracked t id)

theorem adds_foldl_launch (routines : List Routine)
    (hclear : ∀ routine ∈ routines, routine.Clear) (s : Service) :
    Adds s (routines.foldl launch s) :=
  List.foldlRecOn routines launch
    (.of_same fun _ => rfl) fun _ ht routine hroutine =>
      ht.trans (adds_spawn (hclear routine hroutine))

theorem adds_begun (s : Service) : Adds s s.begun := by
  have hknown : Adds s ({ s with started := true } : Service).attachKnown :=
    adds_attachKnown { s with started := true }
  refine hknown.trans (adds_foldl_launch _ ?_ _)
  intro routine hroutine
  rcases List.mem_cons.1 hroutine with rfl | hobserver
  · exact ⟨rfl, rfl⟩
  · obtain ⟨cursor, _, rfl⟩ := List.mem_map.1 hobserver
    exact ⟨rfl, rfl⟩

@[simp]
theorem kept_begun (s : Service) : s.begun.kept = s.kept := by
  unfold begun
  rw [foldl_launch_eq]
  simp

theorem adds_shutdown (hrunning : s.shutDown = false) : Adds s s.shutdown := by
  intro task routine htask
  rw [shutdown_eq hrunning] at htask
  simp only [tasks_foldl_abort] at htask
  split at htask
  next => cases htask
  next => exact .inl htask

/-! ## The pieces of a task that saves and sends -/

theorem step_of_ready {routine : Routine} {saved : Bool}
    (htask : s.tasks.get? task = some routine)
    (hready : s.isReady routine = true) :
    s.step (.resume task saved) =
      (s.work task saved routine).1.setRoutine task
        (s.work task saved routine).2 := by
  simp only [step, resume, htask, hready, if_true]

theorem step_of_idle {routine : Routine} {saved : Bool}
    (htask : s.tasks.get? task = some routine)
    (hidle : s.isReady routine = false) :
    s.step (.resume task saved) = s := by
  simp [step, resume, htask, hidle]

theorem step_of_saves {saved : Bool} {next : Routine}
    (htask : s.tasks.get? task = some (.save next))
    (hfree : s.isWriting = false) :
    s.step (.resume task saved) = s.setRoutine task (.write s.ledger next) := by
  rw [step_of_ready htask (by simp [isReady, hfree])]
  rfl

theorem step_of_writes {copy : Ledger} {next : Routine}
    (htask : s.tasks.get? task = some (.write copy next)) :
    s.step (.resume task true) =
      ({ s with kept := some copy, saves := s.saves + 1 } : Service).setRoutine
        task next := by
  rw [step_of_ready htask rfl]
  rfl

theorem step_of_loses {copy : Ledger} {next : Routine}
    (htask : s.tasks.get? task = some (.write copy next)) :
    s.step (.resume task false) = s.setRoutine task next := by
  rw [step_of_ready htask rfl]
  rfl

theorem step_of_sends {saved : Bool} {r : Record} {next : Routine}
    (htask : s.tasks.get? task = some (.send r next)) :
    s.step (.resume task saved) =
      ({ s with outbox := s.outbox ++ [⟨s.clock, r⟩] } : Service).setRoutine
        task next := by
  rw [step_of_ready htask rfl]
  rfl

/-! ## What a claim does -/

theorem attempt?_eq_some_iff {bound : ResendBound} {sweeping : Bool} :
    s.attempt? task id bound sweeping = some a ↔
      s.shutDown = false ∧ ∃ r t, s.claim id bound sweeping = some (r, t) ∧
        a = ⟨task, id, bound, r,
          nextCount (attemptsMade (s.attempts? id))⟩ := by
  unfold attempt?
  cases s.shutDown with
  | true => simp
  | false =>
    simp only [Bool.false_eq_true, if_false, Option.map_eq_some_iff,
      Prod.exists, true_and]
    constructor
    · rintro ⟨r, t, hclaim, rfl⟩
      exact ⟨r, t, hclaim, rfl⟩
    · rintro ⟨r, t, hclaim, rfl⟩
      exact ⟨r, t, hclaim, rfl⟩

theorem attempt?_of_claim {bound : ResendBound} {sweeping : Bool} {r : Record}
    (hrunning : s.shutDown = false)
    (hclaim : s.claim id bound sweeping = some (r, t)) (task : Nat) :
    s.attempt? task id bound sweeping =
      some ⟨task, id, bound, r, nextCount (attemptsMade (s.attempts? id))⟩ :=
  attempt?_eq_some_iff.2 ⟨hrunning, r, t, hclaim, rfl⟩

/-- The task that claims an attempt is to save and then to send. -/
theorem claims_of_claim {bound : ResendBound} {sweeping : Bool} {r : Record}
    (hclaim : s.claim id bound sweeping = some (r, t)) {next : Routine}
    (hclear : next.Clear)
    (htask : u.tasks.get? task = some (.save (.send r next)))
    (hothers : ∀ task', task' ≠ task → u.tasks.get? task' = s.tasks.get? task')
    (hledger : u.ledger = t.ledger) (hkept : u.kept = s.kept)
    (houtbox : u.outbox = s.outbox) :
    Claims s ⟨task, id, bound, r, nextCount (attemptsMade (s.attempts? id))⟩
      u := by
  obtain ⟨hlive, _, _, hwithin, rfl⟩ := claim_eq_some_iff.1 hclaim
  exact ⟨hlive, hwithin, rfl, hledger, hkept, houtbox,
    ⟨next, hclear, htask⟩, hothers⟩

/-- A new task claims an attempt. -/
theorem claims_of_spawn {bound : ResendBound} {sweeping : Bool} {r : Record}
    (hclaim : s.claim id bound sweeping = some (r, t)) {next : Routine}
    (hclear : next.Clear) :
    Claims s ⟨s.nextTask, id, bound, r,
      nextCount (attemptsMade (s.attempts? id))⟩
      (t.spawn (.save (.send r next))) := by
  obtain ⟨_, _, _, _, ht⟩ := claim_eq_some_iff.1 hclaim
  apply claims_of_claim hclaim hclear
  · rw [tasks_spawn, ht, if_pos rfl]
  · intro task' hother
    have hother : task' ≠ t.nextTask := by rwa [ht]
    rw [tasks_spawn, if_neg hother, ht]
  all_goals simp [ht]

theorem step_of_resends {r : Record} (hrunning : s.shutDown = false)
    (hclaim : s.claim id .manual false = some (r, t)) :
    s.step (.resend id) = t.spawn (.save (.send r (.answer 1))) := by
  simp [step, resend, hrunning, hclaim]

theorem claims_resend (hclaimed : s.claimed? (.resend id) = some a) :
    Claims s a (s.step (.resend id)) := by
  obtain ⟨hrunning, r, t, hclaim, rfl⟩ := attempt?_eq_some_iff.1 hclaimed
  rw [step_of_resends hrunning hclaim]
  exact claims_of_spawn hclaim ⟨rfl, rfl⟩

theorem step_of_fires {generation : Nat} {sleeper : Sleeper} {r : Record}
    (hsleeper : s.scheduler.sleepers.get? generation = some sleeper)
    (hdue : sleeper.due ≤ s.clock)
    (hcurrent : s.scheduler.isCurrent sleeper.id generation = true)
    (hrunning : s.shutDown = false)
    (hclaim : (s.woken generation sleeper.id).claim sleeper.id .automatic
      false = some (r, t)) :
    s.step (.wake generation) = t.spawn (.save (.send r .stop)) := by
  have hstays : (s.scheduler.wake generation).isCurrent sleeper.id generation =
      true := hcurrent
  simp only [step, wake, hsleeper, if_pos hdue, fire, hstays]
  rw [if_neg (by simp [hrunning])]
  split
  next hrefused => cases hclaim.symm.trans hrefused
  next r' claimed hgranted =>
    cases hclaim.symm.trans hgranted
    rfl

theorem claims_wake {generation : Nat}
    (hclaimed : s.claimed? (.wake generation) = some a) :
    Claims s a (s.step (.wake generation)) := by
  simp only [claimed?] at hclaimed
  split at hclaimed
  next sleeper hsleeper =>
    split at hclaimed
    next hdue =>
      obtain ⟨hrunning, r, t, hclaim, rfl⟩ := attempt?_eq_some_iff.1 hclaimed
      rw [step_of_fires hsleeper hdue.1 hdue.2 hrunning hclaim]
      have hclear : Routine.stop.Clear := ⟨rfl, rfl⟩
      have hclaims := claims_of_spawn hclaim hclear
      exact ⟨hclaims.live, hclaims.within, rfl, hclaims.ledger, hclaims.kept,
        hclaims.outbox, hclaims.task, hclaims.others⟩
    next => cases hclaimed
  next => cases hclaimed

theorem claims_resume {saved : Bool}
    (hclaimed : s.claimed? (.resume task saved) = some a) :
    Claims s a (s.step (.resume task saved)) := by
  simp only [claimed?] at hclaimed
  split at hclaimed
  next id rest resent watching htask =>
    obtain ⟨hrunning, r, t, hclaim, rfl⟩ := attempt?_eq_some_iff.1 hclaimed
    have hstep : s.step (.resume task saved) =
        t.setRoutine task
          (.save (.send r (.sweep rest (resent + 1) watching))) := by
      have hwork : s.work task saved (.sweep (id :: rest) resent watching) =
          s.trySweep id rest resent watching := rfl
      rw [step_of_ready htask rfl, hwork]
      simp only [trySweep, hrunning, hclaim]
      rfl
    obtain ⟨_, _, _, _, ht⟩ := claim_eq_some_iff.1 hclaim
    rw [hstep]
    have hclear : (Routine.sweep rest (resent + 1) watching).Clear := ⟨rfl, rfl⟩
    apply claims_of_claim hclaim hclear
    · simp [tasks_setRoutine]
    · intro task' hother
      rw [tasks_setRoutine, if_neg hother, ht]
    all_goals simp [ht]
  next => cases hclaimed

/-- What claims an attempt takes it from the counter and leaves it with one
task. -/
theorem claims_step (hclaimed : s.claimed? e = some a) :
    Claims s a (s.step e) := by
  cases e with
  | resend id => exact claims_resend hclaimed
  | wake generation => exact claims_wake hclaimed
  | resume task saved => exact claims_resume hclaimed
  | _ => cases hclaimed

/-! ## Every event takes its course -/

theorem sender?_of_claimed? (hclaimed : s.claimed? e = some a) :
    s.sender? e = none := by
  cases e with
  | resume task saved =>
    simp only [claimed?] at hclaimed
    split at hclaimed
    next htask => simp [sender?, htask]
    next => cases hclaimed
  | _ => rfl

theorem sender?_eq_some_iff : s.sender? e = some task ↔
    ∃ saved r next, e = .resume task saved ∧
      s.tasks.get? task = some (.send r next) := by
  cases e with
  | resume task' saved =>
    simp only [sender?]
    split
    next r next htask =>
      constructor
      · rintro ⟨⟩
        exact ⟨saved, r, next, rfl, htask⟩
      · rintro ⟨_, _, _, ⟨⟩, _⟩
        rfl
    next hother =>
      constructor
      · rintro ⟨⟩
      · rintro ⟨_, r, next, ⟨⟩, htask⟩
        exact absurd htask (hother r next)
  | _ => simp [sender?]

/-- What neither claims an attempt nor hands a message over begins or ends a
save, or leaves the attempts alone. -/
theorem Transition.course (htransition : Transition s e t)
    (hclaimed : s.claimed? e = none) (hsender : s.sender? e = none) :
    Course s e t := by
  have hquiet := Course.quiet (s := s) (e := e) (t := t) hclaimed hsender
  cases htransition with
  | chore task saved old left u htask hready hchore =>
    cases hchore with
    | save next =>
      exact .copy task saved _ htask (by simpa [isReady] using hready)
    | write copy next hsaved =>
      subst hsaved
      exact .keep task copy left htask
    | lose copy next hlost =>
      subst hlost
      exact .lose task copy left htask
    | send r next => exact .send task saved r left htask
    | finish resent watching =>
      exact hquiet (by simp) (by simp) (by simp)
        (adds_setRoutine (Routine.clear_afterSweep resent watching) task)
    | passOver | comeUp | watch | sweep =>
      exact hquiet (by simp) (by simp) (by simp)
        (adds_setRoutine ⟨rfl, rfl⟩ task)
  | start => exact hquiet (.inl (by simp)) (by simp) (by simp) (adds_begun s)
  | shutdown hrunning =>
    refine hquiet (.inl ?_) ?_ ?_ (adds_shutdown hrunning)
    all_goals rw [shutdown_eq hrunning]
  | retire r hrunning =>
    exact hquiet (.inr ⟨r, .register r hrunning, by simp [ledger_apply]⟩)
      (by simp) (by simp) ((adds_spawn ⟨rfl, rfl⟩).trans (adds_apply r none))
  | enroll r hrunning =>
    exact hquiet (.inr ⟨r, .register r hrunning, by simp [ledger_apply]⟩)
      (by simp) (by simp)
      (((adds_spawn ⟨rfl, rfl⟩).trans (adds_apply r none)).trans
      (adds_attach _ r.id))
  | restate task saved cursor seen status r hhears =>
    have hclear :
        (Routine.save
          (if status.isReceived then .stop else .follow seen)).Clear := by
      split <;> exact ⟨rfl, rfl⟩
    have happlies := Applies.follow task saved cursor seen status r hhears
    exact hquiet (.inr ⟨_, happlies, by simp [ledger_apply]⟩) (by simp)
      (by simp) ((adds_apply _ (some task)).trans (adds_setRoutine hclear task))
  | hear task saved position heard id =>
    exact hquiet (.inl (by simp)) (by simp) (by simp)
      ((adds_attachTracked s id).trans (adds_setRoutine ⟨rfl, rfl⟩ task))
  | rescan task =>
    exact hquiet (.inl (by simp)) (by simp) (by simp)
      ((adds_attachKnown s).trans (adds_setRoutine ⟨rfl, rfl⟩ task))
  | drop task | leave task =>
    exact hquiet (.inl (by simp)) (by simp) (by simp)
      (adds_setRoutine ⟨rfl, rfl⟩ task)
  | refuse | sweep => exact hquiet (.inl rfl) rfl rfl (adds_spawn ⟨rfl, rfl⟩)
  | resend id r claimed hrunning hclaim =>
    have hsome := attempt?_of_claim hrunning hclaim s.nextTask
    simp [claimed?, hsome] at hclaimed
  | fire generation sleeper r claimed hsleeper hdue hrunning hcurrent hclaim =>
    have hwoken : (s.woken generation sleeper.id).shutDown = false := hrunning
    have hsome := attempt?_of_claim hwoken hclaim s.nextTask
    simp [claimed?, hsleeper, hdue, hcurrent, hsome] at hclaimed
  | catchUp task saved id rest resent watching r claimed htask
      hrunning hclaim =>
        have hsome := attempt?_of_claim hrunning hclaim task
        simp [claimed?, htask, hsome] at hclaimed
  | _ => exact hquiet (.inl rfl) rfl rfl (.of_same fun _ => rfl)

/-- Every event takes its course. -/
theorem course_step (s : Service) (e : Event) : Course s e (s.step e) := by
  cases hclaimed : s.claimed? e with
  | some a =>
    exact .claim a hclaimed (sender?_of_claimed? hclaimed)
      (claims_step hclaimed)
  | none =>
    cases hsender : s.sender? e with
    | some task =>
      obtain ⟨saved, r, next, rfl, htask⟩ := sender?_eq_some_iff.1 hsender
      rw [step_of_sends htask]
      exact .send task saved r next htask
    | none => exact (transition_step s e).course hclaimed hsender

/-! ## Tasks that owe a message -/

theorem owed_setRoutine {old left routine : Routine} {task' : Nat}
    (htask : s.tasks.get? task = some old)
    (hafter : (s.setRoutine task left).tasks.get? task' = some routine)
    (howed : left.owed = old.owed) :
    ∃ before, s.tasks.get? task' = some before ∧
      before.owed = routine.owed := by
  rw [tasks_setRoutine] at hafter
  split at hafter
  next hsame =>
    split at hafter
    next => cases hafter
    next =>
      cases hafter
      exact ⟨old, by rw [hsame, htask], howed.symm⟩
  next => exact ⟨routine, hafter, rfl⟩

/-- Where no attempt is claimed and nothing is handed over, no task owes what it
did not owe before. -/
theorem Course.owed_cases (hcourse : Course s e t)
    (hclaimed : s.claimed? e = none) (hsender : s.sender? e = none)
    {routine : Routine} (htask : t.tasks.get? task = some routine) :
    routine.owed = [] ∨
    ∃ old, s.tasks.get? task = some old ∧ old.owed = routine.owed := by
  cases hcourse with
  | claim a hsome => cases hclaimed.symm.trans hsome
  | copy worker saved next hworker =>
    exact .inr (owed_setRoutine hworker htask rfl)
  | keep worker copy next hworker =>
    exact .inr (owed_setRoutine
      (s := { s with kept := some copy, saves := s.saves + 1 })
      hworker htask rfl)
  | lose worker copy next hworker =>
    exact .inr (owed_setRoutine hworker htask rfl)
  | send worker saved r next hworker => simp [sender?, hworker] at hsender
  | quiet _ _ _ _ _ htasks =>
    rcases htasks task routine htask with hbefore | hclear
    · exact .inr ⟨routine, hbefore, rfl⟩
    · exact .inl hclear.owed

theorem Course.outbox_eq (hcourse : Course s e t)
    (hsender : s.sender? e = none) :
    t.outbox = s.outbox := by
  cases hcourse with
  | claim a _ _ hclaims => exact hclaims.outbox
  | send worker saved r next hworker => simp [sender?, hworker] at hsender
  | quiet _ _ _ _ houtbox => exact houtbox
  | copy | keep | lose => simp

/-! ## Counters -/

theorem Transition.config (htransition : Transition s e t) :
    t.config = s.config := by
  cases htransition with
  | shutdown hrunning => rw [shutdown_eq hrunning]
  | resend id r claimed _ hclaim =>
    obtain ⟨_, _, _, _, rfl⟩ := claim_eq_some_iff.1 hclaim
    rfl
  | fire generation sleeper r claimed _ _ _ _ hclaim =>
    obtain ⟨_, _, _, _, rfl⟩ := claim_eq_some_iff.1 hclaim
    rfl
  | catchUp task saved id rest resent watching r claimed _ _ hclaim =>
    obtain ⟨_, _, _, _, rfl⟩ := claim_eq_some_iff.1 hclaim
    simp
  | chore task saved old left u _ _ hchore => cases hchore <;> simp
  | start | retire | enroll | restate | hear | rescan | drop | leave => simp
  | _ => rfl

theorem config_run (s : Service) (events : List Event) :
    (s.run events).config = s.config :=
  run_induction (P := fun t => t.config = s.config) rfl
    fun _ _ _ _ htransition ht => htransition.config.trans ht

theorem Transition.counted (htransition : Transition s e t)
    (hs : s.ledger.Counted) :
    t.ledger.Counted := by
  rcases htransition.ledger_cases with hsame | ⟨r, _, hledger⟩ |
    ⟨id, n, hlive, hledger⟩
  · rwa [hsame]
  · rw [hledger]
    split
    next => exact hs.remove r.id
    next => exact hs.upsert r
  · rw [hledger]
    exact hs.setAttempts (Ledger.contains_of_find? hlive) n

theorem Fresh.counted (hs : s.Fresh) : s.ledger.Counted := by
  obtain ⟨kept, now, hloaded⟩ := hs.loaded
  rw [hloaded]
  exact Ledger.counted_restored kept now

theorem counted_run (hs : s.ledger.Counted) (events : List Event) :
    (s.run events).ledger.Counted :=
  run_induction (P := fun t => t.ledger.Counted) hs
    fun _ _ _ _ htransition ht => htransition.counted ht

/-- A message keeps its record, if it has one. -/
def Retains (s : Service) (id : MessageId) (t : Service) : Prop :=
  s.ledger.contains id = true → t.ledger.contains id = true

theorem Claims.attempts?_eq (hclaims : Claims s a t) (id : MessageId) :
    t.attempts? id =
      if id = a.id then some a.count else s.attempts? id := by
  rw [attempts?, hclaims.ledger, Ledger.attempts?_setAttempts]
  rfl

/-- Where no attempt is claimed, a counter goes only with its record. -/
theorem Course.attempts?_eq (hcourse : Course s e t)
    (hclaimed : s.claimed? e = none) (hcounted : s.ledger.Counted)
    (hretains : s.Retains id t) :
    t.attempts? id = s.attempts? id := by
  cases hcourse with
  | claim a hsome => cases hclaimed.symm.trans hsome
  | quiet _ _ hledger =>
    rcases hledger with hsame | ⟨r, _, hledger⟩
    · rw [attempts?, hsame, attempts?]
    · rw [attempts?, hledger]
      split
      next hreceived =>
        rw [Ledger.attempts?_remove]
        split
        next hsame =>
          have hmissing : s.ledger.contains id = false := by
            cases hcontains : s.ledger.contains id with
            | false => rfl
            | true =>
              have hstays := hretains hcontains
              rw [hledger, if_pos hreceived, Ledger.contains_eq,
                Ledger.get?_remove, if_pos hsame] at hstays
              cases hstays
          exact (hcounted.attempts?_eq_none hmissing).symm
        next => rfl
      next => rfl
  | copy | keep | lose | send => simp [attempts?]

/-- A message keeps its record all along a run. -/
def Keeps (s : Service) (id : MessageId) : List Event → Prop
  | [] => True
  | e :: rest => s.Retains id (s.step e) ∧ (s.step e).Keeps id rest

instance decidableKeeps :
    (s : Service) → (events : List Event) → Decidable (s.Keeps id events)
  | _, [] => .isTrue trivial
  | s, e :: rest =>
    have := decidableKeeps (s.step e) rest
    inferInstanceAs (Decidable ((s.ledger.contains id = true →
      (s.step e).ledger.contains id = true) ∧ (s.step e).Keeps id rest))

theorem keeps_append {first later : List Event} :
    s.Keeps id (first ++ later) ↔
      s.Keeps id first ∧ (s.run first).Keeps id later := by
  induction first generalizing s with
  | nil => simp [Keeps]
  | cons e rest ih => simp [Keeps, ih, and_assoc]

/-- A claimed attempt raises the counter of its message by one, if the bounds
leave room. -/
theorem Claims.made_eq (hclaims : Claims s a t)
    (hroom : (a.bound.limit s.config).toNat < UInt32.size - 1)
    (id : MessageId) :
    t.made id = s.made id + if a.id = id then 1 else 0 := by
  have hwithin := UInt32.le_iff_toNat_le.1 hclaims.within
  rw [made, hclaims.attempts?_eq]
  by_cases hsame : a.id = id
  · subst hsame
    rw [if_pos rfl, if_pos rfl, hclaims.count]
    exact toNat_nextCount (Nat.lt_of_le_of_lt hwithin hroom)
  · rw [if_neg hsame, if_neg fun same => hsame same.symm]
    rfl

end Service

end Redelivery
