import Redelivery.Proofs.Resend.Completion

/-!
# Answers

An operation is answered by the task that it starts.  Nothing ends or changes
such a task but its own pieces, so what it hands over and what it answers is
settled with its first routine, whatever happens until the answer is given.
-/

namespace Redelivery

namespace Routine

/-- A routine that saves and hands messages over until it comes to an answer. -/
def ComesTo (n : Nat) : Routine → Prop
  | .answer resent => resent = n
  | .save next | .write _ next | .send _ next => next.ComesTo n
  | _ => False

theorem ComesTo.ne_stop {n : Nat} {routine : Routine}
    (hcomes : routine.ComesTo n) :
    routine ≠ .stop := by
  rintro rfl
  exact hcomes

end Routine

namespace Service

/-! ## Tasks that answer for themselves -/

/-- A task that was started and that neither follows a message nor runs in the
background, so that nothing ends it but itself. -/
structure Own (s : Service) (task : Nat) : Prop where
  begun : task < s.nextTask
  foreground : task ∉ s.background
  unfollowing : ∀ id, s.subscriptions.get? id ≠ some task

/-- Tasks follow messages and run in the background under numbers that were
given out. -/
structure Numbered (s : Service) : Prop where
  background : ∀ task ∈ s.background, task < s.nextTask
  followers : ∀ id task, s.subscriptions.get? id = some task → task < s.nextTask

/-- Tasks are started and ended, but none that answers for itself is touched. -/
structure LeavesOwn (s t : Service) : Prop where
  grows : s.nextTask ≤ t.nextTask
  background : ∀ task ∈ t.background,
    task ∈ s.background ∨ s.nextTask ≤ task ∧ task < t.nextTask
  followers : ∀ id task, t.subscriptions.get? id = some task →
    (∃ id', s.subscriptions.get? id' = some task) ∨
      s.nextTask ≤ task ∧ task < t.nextTask
  tasks : ∀ task, s.Own task → t.tasks.get? task = s.tasks.get? task

variable {s t u : Service} {e : Event} {id : MessageId} {task : Nat}
  {r : Record}

theorem LeavesOwn.of_same (hnext : t.nextTask = s.nextTask)
    (hbackground : ∀ task ∈ t.background, task ∈ s.background)
    (hfollowers : ∀ id task, t.subscriptions.get? id = some task →
      ∃ id', s.subscriptions.get? id' = some task)
    (htasks : ∀ task, s.Own task → t.tasks.get? task = s.tasks.get? task) :
    s.LeavesOwn t :=
  ⟨Nat.le_of_eq hnext.symm, fun task htask => .inl (hbackground task htask),
    fun id task htask => .inl (hfollowers id task htask), htasks⟩

theorem leavesOwn_refl (s : Service) : s.LeavesOwn s :=
  .of_same rfl (fun _ h => h) (fun id _ h => ⟨id, h⟩) fun _ _ => rfl

theorem LeavesOwn.own (hst : s.LeavesOwn t) (htask : s.Own task) :
    t.Own task where
  begun := Nat.lt_of_lt_of_le htask.begun hst.grows
  foreground := by
    intro hbackground
    rcases hst.background task hbackground with hold | ⟨hnew, _⟩
    · exact htask.foreground hold
    · exact Nat.lt_irrefl _ (Nat.lt_of_lt_of_le htask.begun hnew)
  unfollowing := by
    intro id hfollower
    rcases hst.followers id task hfollower with ⟨id', hold⟩ | ⟨hnew, _⟩
    · exact htask.unfollowing id' hold
    · exact Nat.lt_irrefl _ (Nat.lt_of_lt_of_le htask.begun hnew)

theorem LeavesOwn.trans (hst : s.LeavesOwn t) (htu : t.LeavesOwn u) :
    s.LeavesOwn u where
  grows := Nat.le_trans hst.grows htu.grows
  background := by
    intro task htask
    have hgrows := htu.grows
    have hfirst := hst.grows
    rcases htu.background task htask with hold | ⟨hlow, hhigh⟩
    · rcases hst.background task hold with hold | ⟨hlow, hhigh⟩
      · exact .inl hold
      · exact .inr ⟨hlow, by omega⟩
    · exact .inr ⟨by omega, hhigh⟩
  followers := by
    intro id task htask
    have hgrows := htu.grows
    have hfirst := hst.grows
    rcases htu.followers id task htask with ⟨id', hold⟩ | ⟨hlow, hhigh⟩
    · rcases hst.followers id' task hold with hold | ⟨hlow, hhigh⟩
      · exact .inl hold
      · exact .inr ⟨hlow, by omega⟩
    · exact .inr ⟨by omega, hhigh⟩
  tasks := by
    intro task htask
    rw [htu.tasks task (hst.own htask), hst.tasks task htask]

theorem LeavesOwn.numbered (hst : s.LeavesOwn t) (hs : s.Numbered) :
    t.Numbered where
  background := by
    intro task htask
    rcases hst.background task htask with hold | ⟨_, hhigh⟩
    · exact Nat.lt_of_lt_of_le (hs.background task hold) hst.grows
    · exact hhigh
  followers := by
    intro id task htask
    rcases hst.followers id task htask with ⟨id', hold⟩ | ⟨_, hhigh⟩
    · exact Nat.lt_of_lt_of_le (hs.followers id' task hold) hst.grows
    · exact hhigh

theorem leavesOwn_spawn (s : Service) (routine : Routine) :
    s.LeavesOwn (s.spawn routine) where
  grows := Nat.le_succ _
  background := fun _ h => .inl h
  followers := fun id _ h => .inl ⟨id, h⟩
  tasks := by
    intro task htask
    rw [tasks_spawn, if_neg (Nat.ne_of_lt htask.begun)]

theorem leavesOwn_apply (s : Service) (r : Record) (origin : Option Nat) :
    s.LeavesOwn (s.apply r origin) := by
  refine .of_same (by simp) (by simp) ?_ ?_
  · intro id task hfollower
    rw [subscriptions_apply] at hfollower
    split at hfollower
    next =>
      rw [Table.get?_erase] at hfollower
      split at hfollower
      next => cases hfollower
      next => exact ⟨id, hfollower⟩
    next => exact ⟨id, hfollower⟩
  · intro task htask
    rw [tasks_apply, if_neg]
    rintro ⟨_, hfollower, _⟩
    exact htask.unfollowing r.id hfollower

theorem leavesOwn_attach (s : Service) (id : MessageId) :
    s.LeavesOwn (s.attach id) := by
  rcases attach_cases s id with ⟨hsame, _⟩ | ⟨stream, _, _, _, hattach⟩
  · rw [hsame]
    exact leavesOwn_refl s
  · rw [hattach]
    refine ⟨Nat.le_succ _, fun _ h => .inl h, ?_, ?_⟩
    · intro id' task hfollower
      simp only [Table.get?_insert] at hfollower
      split at hfollower
      next =>
        cases hfollower
        exact .inr ⟨Nat.le_refl _, Nat.lt_succ_self _⟩
      next => exact .inl ⟨id', hfollower⟩
    · exact (leavesOwn_spawn s _).tasks

theorem leavesOwn_attachTracked (s : Service) (id : MessageId) :
    s.LeavesOwn (s.attachTracked id) :=
  attachTracked_elim (leavesOwn_refl s) fun _ => leavesOwn_attach s id

theorem leavesOwn_attachKnown (s : Service) : s.LeavesOwn s.attachKnown :=
  attachKnown_induction (leavesOwn_refl s) fun t id ht =>
    ht.trans (leavesOwn_attachTracked t id)

theorem leavesOwn_launch (s : Service) (routine : Routine) :
    s.LeavesOwn (s.launch routine) where
  grows := Nat.le_succ _
  background := by
    intro task htask
    rcases List.mem_append.1 htask with hold | hnew
    · exact .inl hold
    · rw [List.mem_singleton.1 hnew]
      exact .inr ⟨Nat.le_refl _, Nat.lt_succ_self _⟩
  followers := fun id _ h => .inl ⟨id, h⟩
  tasks := (leavesOwn_spawn s routine).tasks

theorem leavesOwn_begun (s : Service) : s.LeavesOwn s.begun := by
  have hknown :
      s.LeavesOwn ({ s with started := true } : Service).attachKnown :=
    LeavesOwn.trans (t := { s with started := true })
      (.of_same rfl (fun _ h => h) (fun id _ h => ⟨id, h⟩) fun _ _ => rfl)
      (leavesOwn_attachKnown _)
  exact List.foldlRecOn _ launch hknown fun t ht routine _ =>
    ht.trans (leavesOwn_launch t routine)

theorem leavesOwn_shutdown (hrunning : s.shutDown = false) :
    s.LeavesOwn s.shutdown := by
  rw [shutdown_eq hrunning]
  refine .of_same rfl (by simp) (by simp) ?_
  intro task htask
  simp only [tasks_foldl_abort]
  rw [if_neg]
  intro hended
  rcases List.mem_append.1 hended with hbackground | hfollower
  · exact htask.foreground hbackground
  · obtain ⟨id, hid⟩ := (Table.mem_values_iff s.subscriptions task).1 hfollower
    exact htask.unfollowing id hid

theorem leavesOwn_claim {bound : ResendBound} {sweeping : Bool}
    (hclaim : s.claim id bound sweeping = some (r, t)) : s.LeavesOwn t := by
  obtain ⟨_, _, _, _, rfl⟩ := claim_eq_some_iff.1 hclaim
  exact .of_same rfl (fun _ h => h) (fun id _ h => ⟨id, h⟩) fun _ _ => rfl

/-- An event leaves the tasks that answer for themselves alone, but for the one
that it lets go on. -/
theorem Transition.leavesOwn (htransition : Transition s e t) :
    ∃ u, s.LeavesOwn u ∧
      (t = u ∨ ∃ task saved left, e = .resume task saved ∧
        t = u.setRoutine task left) := by
  cases htransition with
  | start => exact ⟨_, leavesOwn_begun s, .inl rfl⟩
  | shutdown hrunning => exact ⟨_, leavesOwn_shutdown hrunning, .inl rfl⟩
  | refuse => exact ⟨_, leavesOwn_spawn s _, .inl rfl⟩
  | sweep => exact ⟨_, leavesOwn_spawn s _, .inl rfl⟩
  | retire r =>
    exact ⟨_, (leavesOwn_spawn s _).trans (leavesOwn_apply _ r none), .inl rfl⟩
  | enroll r =>
    have happlied :=
      (leavesOwn_spawn s (.save (.answer 0))).trans (leavesOwn_apply _ r none)
    exact ⟨_, happlied.trans (leavesOwn_attach _ r.id), .inl rfl⟩
  | resend id r claimed _ hclaim =>
    exact ⟨_, (leavesOwn_claim hclaim).trans (leavesOwn_spawn claimed _),
      .inl rfl⟩
  | fire generation sleeper r claimed _ _ _ _ hclaim =>
    have hwoken : s.LeavesOwn (s.woken generation sleeper.id) :=
      .of_same rfl (fun _ h => h) (fun id _ h => ⟨id, h⟩) fun _ _ => rfl
    exact ⟨_, (hwoken.trans (leavesOwn_claim hclaim)).trans
        (leavesOwn_spawn claimed _), .inl rfl⟩
  | chore task saved old left u _ _ hchore =>
    have hsame : s.LeavesOwn u := by
      cases hchore <;> exact .of_same rfl (fun _ h => h)
        (fun id _ h => ⟨id, h⟩) fun _ _ => rfl
    exact ⟨u, hsame, .inr ⟨task, saved, left, rfl, rfl⟩⟩
  | catchUp task saved id rest resent watching r claimed _ _ hclaim =>
    exact ⟨claimed, leavesOwn_claim hclaim, .inr ⟨task, saved, _, rfl, rfl⟩⟩
  | restate task saved =>
    exact ⟨_, leavesOwn_apply s _ (some task), .inr ⟨task, saved, _, rfl, rfl⟩⟩
  | drop task saved cursor =>
    refine ⟨_, ?_, .inr ⟨task, saved, _, rfl, rfl⟩⟩
    refine .of_same rfl (fun _ h => h) ?_ fun _ _ => rfl
    intro id task hfollower
    simp only [Table.get?_erase] at hfollower
    split at hfollower
    next => cases hfollower
    next => exact ⟨id, hfollower⟩
  | leave task saved =>
    exact ⟨s, leavesOwn_refl s, .inr ⟨task, saved, _, rfl, rfl⟩⟩
  | hear task saved position heard id =>
    exact ⟨_, leavesOwn_attachTracked s id, .inr ⟨task, saved, _, rfl, rfl⟩⟩
  | rescan task saved =>
    exact ⟨_, leavesOwn_attachKnown s, .inr ⟨task, saved, _, rfl, rfl⟩⟩
  | _ =>
    refine ⟨_, ?_, .inl rfl⟩
    exact .of_same rfl (fun _ h => h) (fun id _ h => ⟨id, h⟩) fun _ _ => rfl

theorem Numbered.setRoutine (hs : s.Numbered) (routine : Routine) :
    (s.setRoutine task routine).Numbered where
  background := by simpa using hs.background
  followers := by simpa using hs.followers

theorem Own.setRoutine {other : Nat} (hs : s.Own task) (routine : Routine) :
    (s.setRoutine other routine).Own task where
  begun := by simpa using hs.begun
  foreground := by simpa using hs.foreground
  unfollowing := by simpa using hs.unfollowing

theorem Numbered.transition (hs : s.Numbered) (htransition : Transition s e t) :
    t.Numbered := by
  obtain ⟨u, hleaves, hsame | ⟨task, saved, left, _, hset⟩⟩ :=
    htransition.leavesOwn
  · rw [hsame]
    exact hleaves.numbered hs
  · rw [hset]
    exact (hleaves.numbered hs).setRoutine left

theorem Own.transition (hs : s.Own task) (htransition : Transition s e t) :
    t.Own task := by
  obtain ⟨u, hleaves, hsame | ⟨other, saved, left, _, hset⟩⟩ :=
    htransition.leavesOwn
  · rw [hsame]
    exact hleaves.own hs
  · rw [hset]
    exact (hleaves.own hs).setRoutine left

theorem Own.step (hs : s.Own task) (e : Event) : (s.step e).Own task :=
  hs.transition (transition_step s e)

theorem Own.run (hs : s.Own task) (events : List Event) :
    (s.run events).Own task :=
  run_induction (P := fun t => t.Own task) hs fun _ _ _ _ htransition ht =>
    ht.transition htransition

theorem Own.tasks_step (hs : s.Own task)
    (hother : ∀ saved, e ≠ .resume task saved) :
    (s.step e).tasks.get? task = s.tasks.get? task := by
  obtain ⟨u, hleaves, hsame | ⟨other, saved, left, he, hset⟩⟩ :=
    (transition_step s e).leavesOwn
  · rw [hsame, hleaves.tasks task hs]
  · have hne : task ≠ other := by
      rintro rfl
      exact hother saved he
    rw [hset, tasks_setRoutine, if_neg hne, hleaves.tasks task hs]

theorem numbered_run {start : Service} (hstart : start.Fresh)
    (events : List Event) :
    (start.run events).Numbered := by
  have hfirst : start.Numbered := by
    refine ⟨?_, ?_⟩
    · simp [hstart.background]
    · simp [hstart.subscriptions]
  exact run_induction hfirst fun _ _ _ _ htransition ht =>
    ht.transition htransition

theorem Numbered.own_spawn (hs : s.Numbered) (routine : Routine) :
    (s.spawn routine).Own s.nextTask where
  begun := Nat.lt_succ_self _
  foreground := fun hbackground => Nat.lt_irrefl _ (hs.background _ hbackground)
  unfollowing :=
    fun id hfollower => Nat.lt_irrefl _ (hs.followers id _ hfollower)

/-! ## On the way to an answer -/

/-- The answer that a task has come to. -/
def answer? (s : Service) (task : Nat) : Option Nat :=
  (s.tasks.get? task).bind Routine.answer?

def handover (s : Service) (task : Nat) : Event → List Dispatch
  | .resume worker saved =>
    if worker = task then
      (s.step (.resume worker saved)).outbox.drop s.outbox.length else []
  | _ => []

/-- What a task adds to the outbox in a run. -/
def handed (s : Service) (task : Nat) : List Event → List Dispatch
  | [] => []
  | e :: rest => s.handover task e ++ (s.step e).handed task rest

/-- A task of its own comes to an answer, and has some records to hand over
before. -/
structure Answering (s : Service) (task n : Nat)
    (owed : List Record) : Prop where
  own : s.Own task
  routine : ∃ routine, s.tasks.get? task = some routine ∧ routine.ComesTo n ∧
    routine.owed = owed

/-- The task has handed over the first of the records that it owed, and owes the
others. -/
def AnsweringAfter (t : Service) (task n : Nat) (owed : List Record)
    (sent : List Dispatch) :
    Prop :=
  ∃ left, owed = sent.map Dispatch.record ++ left ∧ t.Answering task n left

variable {n : Nat} {owed : List Record}

theorem get?_setRoutine_of_comesTo {left : Routine} (hcomes : left.ComesTo n) :
    (s.setRoutine task left).tasks.get? task = some left := by
  rw [tasks_setRoutine, if_pos rfl, if_neg hcomes.ne_stop]

theorem Answering.of_setRoutine {left : Routine} (hown : s.Own task)
    (hcomes : left.ComesTo n) :
    (s.setRoutine task left).Answering task n left.owed :=
  ⟨hown.setRoutine left, left, get?_setRoutine_of_comesTo hcomes, hcomes, rfl⟩

theorem handover_of_other (hother : ∀ saved, e ≠ .resume task saved) :
    s.handover task e = [] := by
  cases e with
  | resume worker saved =>
    have hne : worker ≠ task := by
      rintro rfl
      exact hother saved rfl
    simp [handover, hne]
  | _ => rfl

theorem handover_of_outbox {saved : Bool} (sent : List Dispatch)
    (houtbox : (s.step (.resume task saved)).outbox = s.outbox ++ sent) :
    s.handover task (.resume task saved) = sent := by
  simp [handover, houtbox]

theorem Answering.idle {saved : Bool} (hs : s.Answering task n owed)
    (hsame : s.step (.resume task saved) = s) :
    (s.step (.resume task saved)).AnsweringAfter task n owed
      (s.handover task (.resume task saved)) := by
  rw [handover_of_outbox [] (by rw [hsame, List.append_nil]), hsame]
  exact ⟨owed, rfl, hs⟩

theorem answeringAfter_of_setRoutine {saved : Bool} {next : Routine}
    {sent : List Dispatch}
    (hstep : s.step (.resume task saved) = u.setRoutine task next)
    (hown : u.Own task) (hcomes : next.ComesTo n)
    (houtbox : u.outbox = s.outbox ++ sent)
    (howed : sent.map Dispatch.record ++ next.owed = owed) :
    (s.step (.resume task saved)).AnsweringAfter task n owed
      (s.handover task (.resume task saved)) := by
  rw [handover_of_outbox sent (by rw [hstep]; simpa using houtbox), hstep]
  exact ⟨next.owed, howed.symm, .of_setRoutine hown hcomes⟩

/-- A task on the way does its next piece: what it hands over is the first of
what it owed. -/
theorem Answering.resume (hs : s.Answering task n owed) (saved : Bool) :
    (s.step (.resume task saved)).AnsweringAfter task n owed
      (s.handover task (.resume task saved)) := by
  have ⟨hown, routine, htask, hcomes, howed⟩ := hs
  have hnothing : s.outbox = s.outbox ++ [] := (List.append_nil _).symm
  cases routine with
  | answer resent => exact hs.idle (step_of_idle htask rfl)
  | save next =>
    cases hwriting : s.isWriting with
    | true => exact hs.idle (step_of_idle htask (by simp [isReady, hwriting]))
    | false =>
      exact answeringAfter_of_setRoutine
        (step_of_saves htask hwriting) hown hcomes hnothing howed
  | write copy next =>
    cases saved with
    | false =>
      exact answeringAfter_of_setRoutine
        (step_of_loses htask) hown hcomes hnothing howed
    | true =>
      exact answeringAfter_of_setRoutine (step_of_writes htask)
        ⟨hown.begun, hown.foreground, hown.unfollowing⟩ hcomes hnothing howed
  | send r next =>
    exact answeringAfter_of_setRoutine (step_of_sends htask)
      ⟨hown.begun, hown.foreground, hown.unfollowing⟩ hcomes rfl howed
  | _ => exact absurd hcomes id

theorem Answering.step (hs : s.Answering task n owed) (e : Event) :
    (s.step e).AnsweringAfter task n owed (s.handover task e) := by
  by_cases hresumes : ∃ saved, e = .resume task saved
  · obtain ⟨saved, rfl⟩ := hresumes
    exact hs.resume saved
  · have hother : ∀ saved, e ≠ .resume task saved :=
      fun saved he => hresumes ⟨saved, he⟩
    obtain ⟨hown, routine, htask, hcomes, howed⟩ := hs
    refine ⟨owed, ?_, hown.step e, routine, ?_, hcomes, howed⟩
    · rw [handover_of_other hother]
      rfl
    · rw [hown.tasks_step hother, htask]

/-- What a task hands over in a run is the first of what it owed. -/
theorem Answering.run (hs : s.Answering task n owed) (events : List Event) :
    (s.run events).AnsweringAfter task n owed (s.handed task events) := by
  induction events generalizing s owed with
  | nil => exact ⟨owed, rfl, hs⟩
  | cons e rest ih =>
    obtain ⟨between, hfirst, hnext⟩ := hs.step e
    obtain ⟨left, hrest, hlast⟩ := ih hnext
    refine ⟨left, ?_, hlast⟩
    rw [hfirst, hrest, handed, List.map_append, List.append_assoc]

/-- A task that has come to its answer owes nothing. -/
theorem Answering.of_answer? (hs : s.Answering task n owed) {m : Nat}
    (hanswer : s.answer? task = some m) : m = n ∧ owed = [] := by
  obtain ⟨_, routine, htask, hcomes, howed⟩ := hs
  rw [answer?, htask, Option.bind_some] at hanswer
  cases routine with
  | answer resent =>
    cases hanswer
    exact ⟨hcomes, howed.symm⟩
  | _ => cases hanswer

/-- An answer that was given stays. -/
theorem Own.answered (hs : s.Own task)
    (htask : s.tasks.get? task = some (.answer n)) (events : List Event) :
    (s.run events).answer? task = some n := by
  induction events generalizing s with
  | nil => simp [answer?, htask, Routine.answer?]
  | cons e rest ih =>
    refine ih (hs.step e) ?_
    by_cases hresumes : ∃ saved, e = .resume task saved
    · obtain ⟨saved, rfl⟩ := hresumes
      rw [step_of_idle htask rfl, htask]
    · rw [hs.tasks_step fun saved he => hresumes ⟨saved, he⟩, htask]

/-- A task on the way may come to its answer. -/
theorem Answering.finished (hs : s.Answering task n owed) (hsaving : s.Saving) :
    ∃ later, (s.run later).answer? task = some n := by
  obtain ⟨pieces, -, hdone⟩ := hsaving.done task
  obtain ⟨left, -, -, routine, htask, hcomes, -⟩ := hs.run pieces
  have hover := hdone routine htask
  refine ⟨pieces, ?_⟩
  rw [answer?, htask, Option.bind_some]
  cases routine with
  | answer resent => exact congrArg some hcomes
  | save | write | send => cases hover
  | _ => exact absurd hcomes id

end Service

end Redelivery
