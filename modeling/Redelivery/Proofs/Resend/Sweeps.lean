import Redelivery.Proofs.Resend.Separation

/-!
# The course of a sweep

A sweep picks its candidates once and comes to them one by one, and anything may
happen in between.  Nothing but its own pieces carries its task on, so it is
known at every moment which candidates are still to come, how many attempts were
claimed, and what is still to be handed over of that.
-/

namespace Redelivery

namespace Routine

/-- The sweep that a task is in the middle of: the candidates that are still to
come, how many attempts it has claimed, and the node that it goes on to
watch. -/
@[simp]
def sweep? : Routine → Option (List MessageId × Nat × Option NodeCursor)
  | save next | write _ next | send _ next => next.sweep?
  | sweep candidates resent watching => some (candidates, resent, watching)
  | _ => none

@[simp]
theorem sweep?_afterSweep (resent : Nat) (watching : Option NodeCursor) :
    (afterSweep resent watching).sweep? = none := by
  cases watching <;> rfl

theorem afterSweep_ne_stop (resent : Nat) (watching : Option NodeCursor) :
    afterSweep resent watching ≠ .stop := by
  cases watching <;> exact nofun

theorem ne_stop_of_sweep? {routine : Routine}
    {swept : List MessageId × Nat × Option NodeCursor}
    (hsweep : routine.sweep? = some swept) : routine ≠ .stop := by
  rintro rfl
  cases hsweep

/-- Whether a task may begin with a routine: it has seen nothing of a node
yet. -/
def isFirst : Routine → Bool
  | save next | write _ next | send _ next => next.isFirst
  | sweep _ _ watching => watching.isNone
  | observe cursor => cursor.seen.isNone
  | debounce .. => false
  | _ => true

end Routine

namespace Service

variable {s t u : Service} {e : Event} {id : MessageId} {r : Record}
  {task : Nat}
  {routine : Routine}

/-! ## Tasks are carried on by nobody else -/

/-- Tasks are started and ended, but none that was there does anything else. -/
structure Enlists (s t : Service) : Prop where
  grows : s.nextTask ≤ t.nextTask
  tasks : ∀ task < s.nextTask, t.tasks.get? task = s.tasks.get? task ∨
    t.tasks.get? task = none
  starts : ∀ task routine, s.nextTask ≤ task →
    t.tasks.get? task = some routine →
    s.tasks.get? task = some routine ∨ routine.isFirst = true

theorem Enlists.of_same (hnext : t.nextTask = s.nextTask)
    (htasks : t.tasks = s.tasks) :
    s.Enlists t :=
  ⟨Nat.le_of_eq hnext.symm, fun _ _ => .inl (by rw [htasks]), fun _ _ _ htask =>
    .inl (htasks ▸ htask)⟩

theorem enlists_refl (s : Service) : s.Enlists s :=
  .of_same rfl rfl

theorem Enlists.trans (hst : s.Enlists t) (htu : t.Enlists u) :
    s.Enlists u where
  grows := Nat.le_trans hst.grows htu.grows
  tasks := by
    intro task hbegun
    rcases htu.tasks task (Nat.lt_of_lt_of_le hbegun hst.grows)
      with hsame | hgone
    · rw [hsame]
      exact hst.tasks task hbegun
    · exact .inr hgone
  starts := by
    intro task routine hnew htask
    by_cases hbegun : task < t.nextTask
    · rcases htu.tasks task hbegun with hsame | hgone
      · exact hst.starts task routine hnew (hsame ▸ htask)
      · rw [hgone] at htask
        cases htask
    · rcases htu.starts task routine (Nat.le_of_not_lt hbegun) htask
        with hbefore | hfirst
      · exact hst.starts task routine hnew hbefore
      · exact .inr hfirst

theorem enlists_spawn (s : Service) (hfirst : routine.isFirst = true) :
    s.Enlists (s.spawn routine) where
  grows := Nat.le_succ _
  tasks := by
    intro task hbegun
    rw [tasks_spawn, if_neg (Nat.ne_of_lt hbegun)]
    exact .inl rfl
  starts := by
    intro task started _ htask
    rw [tasks_spawn] at htask
    split at htask
    next =>
      cases htask
      exact .inr hfirst
    next => exact .inl htask

theorem enlists_apply (s : Service) (r : Record) (origin : Option Nat) :
    s.Enlists (s.apply r origin) where
  grows := by simp
  tasks := by
    intro task _
    rw [tasks_apply]
    split
    next => exact .inr rfl
    next => exact .inl rfl
  starts := by
    intro task routine _ htask
    rw [tasks_apply] at htask
    split at htask
    next => cases htask
    next => exact .inl htask

theorem enlists_attach (s : Service) (id : MessageId) :
    s.Enlists (s.attach id) := by
  rcases attach_cases s id with ⟨hsame, _⟩ | ⟨stream, _, _, _, hattach⟩
  · rw [hsame]
    exact enlists_refl s
  · rw [hattach]
    have hspawned : s.Enlists (s.spawn (.follow (s.firstCursor id stream))) :=
      s.enlists_spawn rfl
    exact ⟨hspawned.grows, hspawned.tasks, hspawned.starts⟩

theorem enlists_attachTracked (s : Service) (id : MessageId) :
    s.Enlists (s.attachTracked id) :=
  attachTracked_elim (enlists_refl s) fun _ => enlists_attach s id

theorem enlists_attachKnown (s : Service) : s.Enlists s.attachKnown :=
  attachKnown_induction (enlists_refl s) fun t id ht =>
    ht.trans (enlists_attachTracked t id)

theorem enlists_launch (s : Service) (hfirst : routine.isFirst = true) :
    s.Enlists (s.launch routine) :=
  have hspawned := s.enlists_spawn hfirst
  ⟨hspawned.grows, hspawned.tasks, hspawned.starts⟩

theorem enlists_begun (s : Service) : s.Enlists s.begun := by
  have hstarted : s.Enlists ({ s with started := true } : Service) :=
    .of_same rfl rfl
  refine List.foldlRecOn _ Service.launch
    (hstarted.trans (enlists_attachKnown _))
    fun t ht routine hroutine => ht.trans (t.enlists_launch ?_)
  rcases List.mem_cons.1 hroutine with rfl | hobserver
  · rfl
  · obtain ⟨cursor, _, rfl⟩ := List.mem_map.1 hobserver
    rfl

theorem enlists_shutdown (hrunning : s.shutDown = false) :
    s.Enlists s.shutdown := by
  rw [shutdown_eq hrunning]
  refine ⟨Nat.le_refl _, fun task _ => ?_, fun task routine _ htask => ?_⟩
  · simp only [tasks_foldl_abort]
    split
    next => exact .inr rfl
    next => exact .inl rfl
  · simp only [tasks_foldl_abort] at htask
    split at htask
    next => cases htask
    next => exact .inl htask

theorem enlists_claim {bound : ResendBound} {sweeping : Bool}
    (hclaim : s.claim id bound sweeping = some (r, t)) : s.Enlists t := by
  obtain ⟨_, _, _, _, rfl⟩ := claim_eq_some_iff.1 hclaim
  exact .of_same rfl rfl

/-- An event carries no task on but the one whose turn it is. -/
theorem Transition.enlists (htransition : Transition s e t) :
    ∃ u, s.Enlists u ∧
      (t = u ∨ ∃ task saved left, e = .resume task saved ∧
        t = u.setRoutine task left) := by
  cases htransition with
  | start => exact ⟨_, enlists_begun s, .inl rfl⟩
  | shutdown hrunning => exact ⟨_, enlists_shutdown hrunning, .inl rfl⟩
  | refuse | sweep => exact ⟨_, s.enlists_spawn rfl, .inl rfl⟩
  | retire r =>
    exact ⟨_, (s.enlists_spawn rfl).trans (enlists_apply _ r none), .inl rfl⟩
  | enroll r =>
    have hspawned : s.Enlists (s.spawn (.save (.answer 0))) :=
      s.enlists_spawn rfl
    have happlied := hspawned.trans (enlists_apply _ r none)
    exact ⟨_, happlied.trans (enlists_attach _ r.id), .inl rfl⟩
  | resend id r claimed _ hclaim =>
    exact ⟨_, (enlists_claim hclaim).trans (claimed.enlists_spawn rfl),
      .inl rfl⟩
  | fire generation sleeper r claimed _ _ _ _ hclaim =>
    have hwoken : s.Enlists (s.woken generation sleeper.id) := .of_same rfl rfl
    exact ⟨_, (hwoken.trans (enlists_claim hclaim)).trans
        (claimed.enlists_spawn rfl), .inl rfl⟩
  | chore task saved old left u _ _ hchore =>
    have hsame : s.Enlists u := by cases hchore <;> exact .of_same rfl rfl
    exact ⟨u, hsame, .inr ⟨task, saved, left, rfl, rfl⟩⟩
  | catchUp task saved id rest resent watching r claimed _ _ hclaim =>
    exact ⟨claimed, enlists_claim hclaim, .inr ⟨task, saved, _, rfl, rfl⟩⟩
  | restate task saved =>
    exact ⟨_, enlists_apply s _ (some task), .inr ⟨task, saved, _, rfl, rfl⟩⟩
  | drop task saved cursor =>
    exact ⟨{ s with subscriptions := s.subscriptions.erase cursor.id },
      .of_same rfl rfl, .inr ⟨task, saved, _, rfl, rfl⟩⟩
  | leave task saved =>
    exact ⟨s, enlists_refl s, .inr ⟨task, saved, _, rfl, rfl⟩⟩
  | hear task saved position heard id =>
    exact ⟨_, enlists_attachTracked s id, .inr ⟨task, saved, _, rfl, rfl⟩⟩
  | rescan task saved =>
    exact ⟨_, enlists_attachKnown s, .inr ⟨task, saved, _, rfl, rfl⟩⟩
  | _ =>
    refine ⟨_, ?_, .inl rfl⟩
    exact .of_same rfl rfl

theorem nextTask_le_step (s : Service) (e : Event) :
    s.nextTask ≤ (s.step e).nextTask := by
  obtain ⟨u, henlists, hsame | ⟨worker, saved, left, _, hset⟩⟩ :=
    (transition_step s e).enlists
  · rw [hsame]
    exact henlists.grows
  · rw [hset]
    simpa using henlists.grows

/-- A task whose turn it is not goes on as it was, or has ended. -/
theorem tasks_step_of_other (hbegun : task < s.nextTask)
    (hother : ∀ saved, e ≠ .resume task saved) :
    (s.step e).tasks.get? task = s.tasks.get? task ∨
    (s.step e).tasks.get? task = none := by
  obtain ⟨u, henlists, hsame | ⟨worker, saved, left, he, hset⟩⟩ :=
    (transition_step s e).enlists
  · rw [hsame]
    exact henlists.tasks task hbegun
  · have hne : task ≠ worker := by
      rintro rfl
      exact hother saved he
    rw [hset, tasks_setRoutine, if_neg hne]
    exact henlists.tasks task hbegun

/-- What a task is about that was not there before. -/
theorem Separate.isFirst_of_new (hs : s.Separate) (hnew : s.nextTask ≤ task)
    (htask : (s.step e).tasks.get? task = some routine) :
    routine.isFirst = true := by
  have hnone := hs.unused task hnew
  have hstarts {u : Service} (henlists : s.Enlists u)
      (hafter : u.tasks.get? task = some routine) :
      routine.isFirst = true := by
    rcases henlists.starts task routine hnew hafter with hbefore | hfirst
    · rw [hnone] at hbefore
      cases hbefore
    · exact hfirst
  obtain ⟨u, henlists, hsame | ⟨worker, saved, left, he, hset⟩⟩ :=
    (transition_step s e).enlists
  · exact hstarts henlists (hsame ▸ htask)
  · by_cases hturn : task = worker
    · have hidle : s.step (.resume task saved) = s := by
        simp [step, resume, hnone]
      rw [he, ← hturn, hidle, hnone] at htask
      cases htask
    · rw [hset, tasks_setRoutine, if_neg hturn] at htask
      exact hstarts henlists htask

/-! ## What a task claims -/

/-- The attempts that a task claims in a run. -/
def claimsOf (s : Service) (task : Nat) : List Event → List Attempt
  | [] => []
  | e :: rest =>
    ((s.claimed? e).filter fun a => a.task = task).toList ++
      (s.step e).claimsOf task rest

theorem task_of_claimed?_resume {worker : Nat} {saved : Bool} {a : Attempt}
    (hclaimed : s.claimed? (.resume worker saved) = some a) :
    a.task = worker := by
  simp only [claimed?] at hclaimed
  split at hclaimed
  next =>
    obtain ⟨_, _, _, _, rfl⟩ := attempt?_eq_some_iff.1 hclaimed
    rfl
  next => cases hclaimed

/-- An attempt is claimed by a new task, or by one whose turn it is. -/
theorem task_of_claimed? {a : Attempt} (hclaimed : s.claimed? e = some a) :
    a.task = s.nextTask ∨ ∃ saved, e = .resume a.task saved := by
  cases e with
  | resend id =>
    obtain ⟨_, _, _, _, rfl⟩ := attempt?_eq_some_iff.1 hclaimed
    exact .inl rfl
  | wake generation =>
    simp only [claimed?] at hclaimed
    split at hclaimed
    next =>
      split at hclaimed
      next =>
        obtain ⟨_, _, _, _, rfl⟩ := attempt?_eq_some_iff.1 hclaimed
        exact .inl rfl
      next => cases hclaimed
    next => cases hclaimed
  | resume worker saved =>
    rw [task_of_claimed?_resume hclaimed]
    exact .inr ⟨saved, rfl⟩
  | _ => cases hclaimed

theorem claimsOf_resume (s : Service) (task : Nat) (saved : Bool) :
    s.claimsOf task [.resume task saved] =
      (s.claimed? (.resume task saved)).toList := by
  cases hclaimed : s.claimed? (.resume task saved) with
  | none => simp [claimsOf, hclaimed]
  | some a => simp [claimsOf, hclaimed, task_of_claimed?_resume hclaimed]

theorem claimsOf_of_other (hbegun : task < s.nextTask)
    (hother : ∀ saved, e ≠ .resume task saved) : s.claimsOf task [e] = [] := by
  simp only [claimsOf, List.append_nil, Option.toList_eq_nil_iff,
    Option.filter_eq_none_iff, decide_eq_true_eq]
  rintro a hclaimed rfl
  rcases task_of_claimed? hclaimed with hnew | ⟨saved, he⟩
  · exact Nat.ne_of_lt hbegun hnew
  · exact hother saved he

theorem claimsOf_cons (s : Service) (task : Nat) (e : Event)
    (rest : List Event) :
    s.claimsOf task (e :: rest) =
      s.claimsOf task [e] ++ (s.step e).claimsOf task rest := by
  simp [claimsOf]

theorem handed_cons (s : Service) (task : Nat) (e : Event) (rest : List Event) :
    s.handed task (e :: rest) =
      s.handover task e ++ (s.step e).handed task rest := rfl

/-! ## A sweep under way -/

def sweep? (s : Service) (task : Nat) :
    Option (List MessageId × Nat × Option NodeCursor) :=
  (s.tasks.get? task).bind Routine.sweep?

/-- A sweep is under way before each of some events. -/
def UnderWay (s : Service) (task : Nat) : List Event → Prop
  | [] => True
  | e :: rest => (s.sweep? task).isSome = true ∧ (s.step e).UnderWay task rest

instance decidableUnderWay :
    (s : Service) → (task : Nat) → (events : List Event) →
    Decidable (s.UnderWay task events)
  | _, _, [] => .isTrue trivial
  | s, task, e :: rest =>
    have := decidableUnderWay (s.step e) task rest
    inferInstanceAs
      (Decidable ((s.sweep? task).isSome = true ∧
        (s.step e).UnderWay task rest))

/-- A task sweeps: which candidates are still to come, how many attempts it has
claimed, which node it watches afterwards, and which records it still has to
hand over. -/
structure Sweeping (s : Service) (task : Nat) (candidates : List MessageId)
    (resent : Nat) (watching : Option NodeCursor)
    (owed : List Record) : Prop where
  begun : task < s.nextTask
  routine : ∃ routine, s.tasks.get? task = some routine ∧
    routine.sweep? = some (candidates, resent, watching) ∧ routine.owed = owed

/-- A message is stranded: it has a live record whose status lets it be sent
again, no timer is armed for it, and its attempts are not used up. -/
structure Stranded (s : Service) (id : MessageId) (r : Record) : Prop where
  live : s.record? id = some r
  allowed : r.status.rearmAllowed = true
  unarmed : s.scheduler.isArmed id = false
  within : s.made id ≤ s.config.maxAutoResends.toNat

variable {candidates : List MessageId} {resent : Nat}
  {watching : Option NodeCursor}
  {owed : List Record} {saved : Bool} {a : Attempt}

theorem stranded_iff_claim :
    s.Stranded id r ↔ ∃ t, s.claim id .automatic true = some (r, t) := by
  constructor
  · intro hstranded
    refine ⟨_, claim_eq_some_iff.2
      ⟨hstranded.live, ?_, fun _ => hstranded.allowed, ?_, rfl⟩⟩
    · simp [DeliveryStatus.needsSweep, hstranded.allowed, hstranded.unarmed]
    · exact UInt32.le_iff_toNat_le.2 hstranded.within
  · rintro ⟨t, hclaim⟩
    obtain ⟨hlive, hneeds, hallowed, hwithin, _⟩ := claim_eq_some_iff.1 hclaim
    have hneeds := hneeds rfl
    rw [DeliveryStatus.needsSweep, Bool.and_eq_true, Bool.not_eq_true']
      at hneeds
    exact ⟨hlive, hallowed rfl, hneeds.1, UInt32.le_iff_toNat_le.1 hwithin⟩

/-- What one event does to a sweep. -/
inductive Turn (s : Service) (e : Event) (task : Nat)
    (watching : Option NodeCursor) :
    List MessageId → Nat → List Record → Prop
  /-- It waits, saves, or is not concerned. -/
  | stay {candidates : List MessageId} {resent : Nat} {owed : List Record}
      (hclaims : s.claimsOf task [e] = []) (hhanded : s.handover task e = [])
      (hafter : (s.step e).Sweeping task candidates resent watching owed) :
      Turn s e task watching candidates resent owed
  | ended {candidates : List MessageId} {resent : Nat} {owed : List Record}
      (hother : ∀ saved, e ≠ .resume task saved)
      (hclaims : s.claimsOf task [e] = []) (hhanded : s.handover task e = [])
      (hafter : (s.step e).tasks.get? task = none) :
      Turn s e task watching candidates resent owed
  | send {candidates : List MessageId} {resent : Nat} {owed : List Record}
      (r : Record) (hclaims : s.claimsOf task [e] = [])
      (hhanded : s.handover task e = [⟨s.clock, r⟩])
      (hafter : (s.step e).Sweeping task candidates resent watching owed) :
      Turn s e task watching candidates resent (r :: owed)
  | passOver {rest : List MessageId} {resent : Nat} (id : MessageId)
      (hrefused : s.shutDown = true ∨ ∀ r, ¬s.Stranded id r)
      (hclaims : s.claimsOf task [e] = []) (hhanded : s.handover task e = [])
      (hafter : (s.step e).Sweeping task rest resent watching []) :
      Turn s e task watching (id :: rest) resent []
  | claim {rest : List MessageId} {resent : Nat} (a : Attempt)
      (hclaimed : s.claimed? e = some a) (hclaims : s.claimsOf task [e] = [a])
      (hhanded : s.handover task e = []) (hstranded : s.Stranded a.id a.record)
      (hafter : (s.step e).Sweeping task rest (resent + 1) watching
        [a.record]) :
      Turn s e task watching (a.id :: rest) resent []
  | finish {resent : Nat} (hclaims : s.claimsOf task [e] = [])
      (hhanded : s.handover task e = [])
      (hafter : (s.step e).tasks.get? task =
        some (.afterSweep resent watching)) :
      Turn s e task watching [] resent []

theorem sweeping_of_setRoutine {left : Routine} (hbegun : task < u.nextTask)
    (hsweep : left.sweep? = some (candidates, resent, watching))
    (howed : left.owed = owed) :
    (u.setRoutine task left).Sweeping task candidates resent watching owed where
  begun := by simpa using hbegun
  routine := by
    refine ⟨left, ?_, hsweep, howed⟩
    rw [tasks_setRoutine, if_pos rfl, if_neg (Routine.ne_stop_of_sweep? hsweep)]

theorem claimsOf_resume_of_not_sweep (htask : s.tasks.get? task = some routine)
    (hother : ∀ id rest resent watching,
      routine ≠ .sweep (id :: rest) resent watching)
    (saved : Bool) : s.claimsOf task [.resume task saved] = [] := by
  have hnone : s.claimed? (.resume task saved) = none := by
    simp only [claimed?, htask]
    split
    next id rest resent watching hsweep =>
      exact absurd (Option.some.inj hsweep) (hother id rest resent watching)
    next => rfl
  simp [claimsOf, hnone]

/-- A sweep comes to its next candidate. -/
theorem turn_of_candidate (hbegun : task < s.nextTask) {rest : List MessageId}
    (htask : s.tasks.get? task = some (.sweep (id :: rest) resent watching))
    (saved : Bool) :
    s.Turn (.resume task saved) task watching (id :: rest) resent [] := by
  have hstep : s.step (.resume task saved) =
      (s.trySweep id rest resent watching).1.setRoutine task
        (s.trySweep id rest resent watching).2 := step_of_ready htask rfl
  have hpass (hnone :
      (if s.shutDown then none else s.claim id .automatic true) = none)
        (hrefused : s.shutDown = true ∨ ∀ r, ¬s.Stranded id r)
        (hclaimed : s.claimed? (.resume task saved) = none) :
      s.Turn (.resume task saved) task watching (id :: rest) resent [] := by
    rw [trySweep, hnone] at hstep
    refine .passOver id hrefused (by simp [claimsOf, hclaimed]) ?_ ?_
    · exact handover_of_outbox [] (by rw [hstep]; simp)
    · rw [hstep]
      exact sweeping_of_setRoutine hbegun rfl rfl
  cases hshut : s.shutDown with
  | true =>
    refine hpass (by rw [hshut]; rfl) (.inl hshut) ?_
    simp [claimed?, htask, attempt?, hshut]
  | false =>
    cases hclaim : s.claim id .automatic true with
    | none =>
      refine hpass (by rw [hshut, hclaim]; rfl) (.inr ?_) ?_
      · intro r hstranded
        obtain ⟨t, hsome⟩ := stranded_iff_claim.1 hstranded
        cases hclaim.symm.trans hsome
      · simp [claimed?, htask, attempt?, hshut, hclaim]
    | some answer =>
      obtain ⟨r, claimed⟩ := answer
      have hclaimed : s.claimed? (.resume task saved) =
          some ⟨task, id, .automatic, r,
            nextCount (attemptsMade (s.attempts? id))⟩ := by
        simp only [claimed?, htask]
        exact attempt?_of_claim hshut hclaim task
      simp only [trySweep, hshut, hclaim, Bool.false_eq_true, if_false] at hstep
      have hstranded := stranded_iff_claim.2 ⟨claimed, hclaim⟩
      obtain ⟨_, _, _, _, rfl⟩ := claim_eq_some_iff.1 hclaim
      refine .claim _ hclaimed (by simp [claimsOf, hclaimed]) ?_ hstranded ?_
      · exact handover_of_outbox [] (by rw [hstep]; simp)
      · rw [hstep]
        exact sweeping_of_setRoutine hbegun rfl rfl

/-- A piece of work that neither claims an attempt nor hands anything over
leaves a sweep where it is. -/
theorem turn_of_setRoutine {left : Routine}
    (hstep : s.step (.resume task saved) = u.setRoutine task left)
    (hbegun : task < u.nextTask) (houtbox : u.outbox = s.outbox)
    (hclaims : s.claimsOf task [.resume task saved] = [])
    (hsweep : left.sweep? = some (candidates, resent, watching))
    (howed : left.owed = owed) :
    s.Turn (.resume task saved) task watching candidates resent owed := by
  refine .stay hclaims ?_ ?_
  · exact handover_of_outbox [] (by rw [hstep]; simpa using houtbox)
  · rw [hstep]
    exact sweeping_of_setRoutine hbegun hsweep howed

/-- A sweep takes a turn when its task goes on. -/
theorem Sweeping.turn_of_resume
    (hs : s.Sweeping task candidates resent watching owed) (saved : Bool) :
    s.Turn (.resume task saved) task watching candidates resent owed := by
  obtain ⟨hbegun, routine, htask, hsweep, howed⟩ := hs
  cases routine with
  | save next =>
    have hclaims := claimsOf_resume_of_not_sweep htask (by simp) saved
    cases hwriting : s.isWriting with
    | true =>
      have hsame : s.step (.resume task saved) = s :=
        step_of_idle htask (by simp [isReady, hwriting])
      refine .stay hclaims
        (handover_of_outbox [] (by rw [hsame, List.append_nil])) ?_
      rw [hsame]
      exact ⟨hbegun, _, htask, hsweep, howed⟩
    | false =>
      exact turn_of_setRoutine (step_of_saves htask hwriting) hbegun rfl hclaims
        hsweep howed
  | write copy next =>
    have hclaims := claimsOf_resume_of_not_sweep htask (by simp) saved
    cases saved with
    | true =>
      exact turn_of_setRoutine (step_of_writes htask) hbegun rfl hclaims
        hsweep howed
    | false =>
      exact turn_of_setRoutine (step_of_loses htask) hbegun rfl hclaims
        hsweep howed
  | send r next =>
    have hclaims := claimsOf_resume_of_not_sweep htask (by simp) saved
    subst howed
    refine .send r hclaims (handover_of_outbox [⟨s.clock, r⟩] ?_) ?_
    · rw [step_of_sends htask]
      simp
    · rw [step_of_sends htask]
      exact sweeping_of_setRoutine hbegun hsweep rfl
  | sweep rest resent' watching' =>
    cases hsweep
    subst howed
    cases candidates with
    | cons id rest => exact turn_of_candidate hbegun htask saved
    | nil =>
      have hstep : s.step (.resume task saved) =
          s.setRoutine task (.afterSweep resent watching) :=
        step_of_ready htask rfl
      refine .finish (claimsOf_resume_of_not_sweep htask (by simp) saved) ?_ ?_
      · exact handover_of_outbox [] (by rw [hstep]; simp)
      · rw [hstep, tasks_setRoutine, if_pos rfl,
          if_neg (Routine.afterSweep_ne_stop _ _)]
  | _ => cases hsweep

/-- A sweep takes one turn with every event. -/
theorem Sweeping.turn (hs : s.Sweeping task candidates resent watching owed)
    (e : Event) :
    s.Turn e task watching candidates resent owed := by
  by_cases hturn : ∃ saved, e = .resume task saved
  · obtain ⟨saved, rfl⟩ := hturn
    exact hs.turn_of_resume saved
  · obtain ⟨hbegun, routine, htask, hsweep, howed⟩ := hs
    have hother : ∀ saved, e ≠ .resume task saved :=
      fun saved he => hturn ⟨saved, he⟩
    have hclaims := claimsOf_of_other hbegun hother
    have hhanded : s.handover task e = [] := handover_of_other hother
    rcases tasks_step_of_other hbegun hother with hsame | hgone
    · have hbegun' := Nat.lt_of_lt_of_le hbegun (nextTask_le_step s e)
      exact .stay hclaims hhanded
        ⟨hbegun', routine, hsame.trans htask, hsweep, howed⟩
    · exact .ended hother hclaims hhanded hgone

/-- How far a sweep has come after some events: what it has claimed attempts
for, and what it has handed over of that. -/
inductive Swept (task : Nat) (candidates : List MessageId) (resent : Nat)
    (watching : Option NodeCursor) (owed : List Record) (claims : List Attempt)
    (sent : List Dispatch) (t : Service) : Prop
  | on (rest : List MessageId) (left : List Record)
      (hids : (claims.map Attempt.id ++ rest).Sublist candidates)
      (howed : owed ++ claims.map Attempt.record =
        sent.map Dispatch.record ++ left)
      (hafter : t.Sweeping task rest (resent + claims.length) watching left)
  | finished (hids : (claims.map Attempt.id).Sublist candidates)
      (howed : owed ++ claims.map Attempt.record = sent.map Dispatch.record)
      (hafter : t.tasks.get? task =
        some (.afterSweep (resent + claims.length) watching))
  | ended (left : List Record)
      (hids : (claims.map Attempt.id).Sublist candidates)
      (howed : owed ++ claims.map Attempt.record =
        sent.map Dispatch.record ++ left)
      (hafter : t.tasks.get? task = none)

/-- What was claimed and handed over after a message was handed over. -/
theorem Swept.send {claims : List Attempt} {sent : List Dispatch}
    (h : Swept task candidates resent watching owed claims sent t)
    (d : Dispatch) :
    Swept task candidates resent watching (d.record :: owed) claims
      (d :: sent) t := by
  cases h with
  | on rest left hids howed hafter =>
    exact .on rest left hids (by simp [howed]) hafter
  | finished hids howed hafter => exact .finished hids (by simp [howed]) hafter
  | ended left hids howed hafter =>
    exact .ended left hids (by simp [howed]) hafter

/-- What was claimed and handed over after a candidate was passed over. -/
theorem Swept.passOver {claims : List Attempt} {sent : List Dispatch}
    (h : Swept task candidates resent watching owed claims sent t)
    (id : MessageId) :
    Swept task (id :: candidates) resent watching owed claims sent t := by
  cases h with
  | on rest left hids howed hafter =>
    exact .on rest left (hids.cons id) howed hafter
  | finished hids howed hafter => exact .finished (hids.cons id) howed hafter
  | ended left hids howed hafter =>
    exact .ended left (hids.cons id) howed hafter

/-- What was claimed and handed over after an attempt was claimed. -/
theorem Swept.claim {claims : List Attempt} {sent : List Dispatch}
    (h : Swept task candidates (resent + 1) watching [a.record] claims sent t) :
    Swept task (a.id :: candidates) resent watching []
      (a :: claims) sent t := by
  have hcount : resent + (a :: claims).length = resent + 1 + claims.length := by
    rw [List.length_cons]
    omega
  cases h with
  | on rest left hids howed hafter =>
    exact .on rest left (hids.cons_cons a.id) howed (by rwa [hcount])
  | finished hids howed hafter =>
    exact .finished (hids.cons_cons a.id) howed (by rwa [hcount])
  | ended left hids howed hafter =>
    exact .ended left (hids.cons_cons a.id) howed hafter

theorem Sweeping.sweep?_eq
    (hs : s.Sweeping task candidates resent watching owed) :
    s.sweep? task = some (candidates, resent, watching) := by
  obtain ⟨_, routine, htask, hsweep, _⟩ := hs
  rw [sweep?, htask, Option.bind_some, hsweep]

/-- What is found of a sweep after some events, as long as it is under way
before them. -/
theorem Sweeping.run {events : List Event}
    (hs : s.Sweeping task candidates resent watching owed)
    (hunderWay : s.UnderWay task events) :
    Swept task candidates resent watching owed (s.claimsOf task events)
      (s.handed task events)
      (s.run events) := by
  induction events generalizing s candidates resent owed with
  | nil =>
    exact .on candidates owed (by simp [claimsOf])
      (by simp [claimsOf, handed]) hs
  | cons e rest ih =>
    obtain ⟨_, hrest⟩ := hunderWay
    rw [claimsOf_cons, handed_cons, run_cons]
    have hend (hover : (s.step e).sweep? task = none) : rest = [] := by
      cases rest with
      | nil => rfl
      | cons _ _ => simp [UnderWay, hover] at hrest
    cases hs.turn e with
    | stay hclaims hhanded hafter =>
      rw [hclaims, hhanded]
      exact ih hafter hrest
    | ended _ hclaims hhanded hafter =>
      obtain rfl := hend (by simp [sweep?, hafter])
      rw [hclaims, hhanded]
      exact .ended owed (by simp [claimsOf]) (by simp [claimsOf, handed]) hafter
    | send r hclaims hhanded hafter =>
      rw [hclaims, hhanded]
      exact (ih hafter hrest).send ⟨s.clock, r⟩
    | passOver id _ hclaims hhanded hafter =>
      rw [hclaims, hhanded]
      exact (ih hafter hrest).passOver id
    | claim a _ hclaims hhanded _ hafter =>
      rw [hclaims, hhanded]
      exact (ih hafter hrest).claim
    | finish hclaims hhanded hafter =>
      obtain rfl := hend (by simp [sweep?, hafter])
      rw [hclaims, hhanded]
      exact .finished (by simp [claimsOf]) (by simp [claimsOf, handed])
        (by simpa [claimsOf] using hafter)

end Service

end Redelivery
