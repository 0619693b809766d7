import Redelivery.Proofs.Resend.Agreement

/-!
# The pieces of an operation

An operation takes several pieces.  The first changes what belongs to the
message and leaves a task to save and to hand over; the others change nothing
but the outbox, and what they add to it is what that task had to hand over.
-/

namespace Redelivery

def Event.isWithin : Event → Bool
  | .register _ | .resend _ | .wake _ | .resume .. => true
  | _ => false

namespace Routine

/-- The answer that a task comes to once it has saved and handed over. -/
def promise? : Routine → Option Nat
  | save next | write _ next | send _ next => next.promise?
  | answer resent => some resent
  | _ => none

theorem promise?_of_isDone {routine : Routine} (hdone : routine.isDone = true) :
    routine.promise? = routine.answer? := by
  cases routine with
  | save | write | send => cases hdone
  | _ => rfl

end Routine

namespace Service

/-- The records that a task has still to hand over. -/
def owes (s : Service) (task : Nat) : List Record :=
  ((s.tasks.get? task).map Routine.owed).getD []

/-- The answer that a task comes to. -/
def promise? (s : Service) (task : Nat) : Option Nat :=
  (s.tasks.get? task).bind Routine.promise?

/-- An operation is under way, or has come to its end. -/
def Underway (s : Service) (p : Operation) (t : Service) : Prop :=
  ∃ pieces, (s.undertake p).Advances (s.worker p) pieces ∧
    t = (s.undertake p).run pieces

/-- An operation is carried out to its end, and is answered if anybody asks for
an answer. -/
def Performs (s : Service) (p : Operation) (answer : Option Nat)
    (t : Service) : Prop :=
  s.Underway p t ∧ t.Done (s.worker p) ∧ t.answer? (s.worker p) = answer

/-- What later pieces leave of a service: all that surrounds the messages and
all that belongs to them; and what a task had to hand over is handed over or is
still to come. -/
structure Carries (s t : Service) (worker : Nat) : Prop where
  stays : s.Stays t
  leaves : ∀ id, s.Leaves t id
  sent : ∃ sent, t.outbox = s.outbox ++ sent ∧
    (s.owes worker).map (Dispatch.mk s.clock) =
      sent ++ (t.owes worker).map (Dispatch.mk t.clock)
  promise : t.promise? worker = s.promise? worker

variable {s t u : Service} {e : Event} {id : MessageId} {r : Record}
  {task worker : Nat}
  {routine : Routine} {p q : Operation}

/-! ## Later pieces -/

theorem carries_refl (s : Service) (worker : Nat) : s.Carries s worker :=
  ⟨s.stays_refl, s.leaves_refl, ⟨[], by simp, rfl⟩, rfl⟩

theorem Carries.trans (hst : s.Carries t worker) (htu : t.Carries u worker) :
    s.Carries u worker where
  stays := hst.stays.trans htu.stays
  leaves := fun id => (hst.leaves id).trans (htu.leaves id)
  sent := by
    obtain ⟨first, hfirst, howed⟩ := hst.sent
    obtain ⟨second, hsecond, howed'⟩ := htu.sent
    refine ⟨first ++ second, ?_, ?_⟩
    · rw [hsecond, hfirst, List.append_assoc]
    · rw [howed, howed', List.append_assoc]
  promise := htu.promise.trans hst.promise

theorem owes_of_get? (htask : s.tasks.get? task = some routine) :
    s.owes task = routine.owed := by
  simp [owes, htask]

theorem owes_setRoutine (s : Service) (task : Nat) (routine : Routine)
    (task' : Nat) :
    (s.setRoutine task routine).owes task' =
      if task' = task then routine.owed else s.owes task' := by
  rw [owes, tasks_setRoutine]
  by_cases hsame : task' = task
  · by_cases hended : routine = .stop <;> simp [hsame, hended]
  · simp [hsame, owes]

theorem promise?_setRoutine (s : Service) (task : Nat) (routine : Routine)
    (task' : Nat) :
    (s.setRoutine task routine).promise? task' =
      if task' = task then routine.promise? else s.promise? task' :=
  bind_tasks_setRoutine rfl s task routine task'

theorem Done.owes_eq_nil {task : Nat} (hdone : s.Done task) :
    s.owes task = [] := by
  cases htask : s.tasks.get? task with
  | none => simp [owes, htask]
  | some routine =>
    rw [owes_of_get? htask, Routine.owed_of_isDone (hdone routine htask)]

theorem Done.promise?_eq {task : Nat} (hdone : s.Done task) :
    s.promise? task = s.answer? task := by
  cases htask : s.tasks.get? task with
  | none => simp [promise?, answer?, htask]
  | some routine =>
    rw [promise?, answer?, htask, Option.bind_some, Option.bind_some,
      Routine.promise?_of_isDone (hdone routine htask)]

/-- A task that saves or hands over goes on. -/
theorem carries_setRoutine (worker : Nat) {old : Routine} (left : Routine)
    (htask : s.tasks.get? task = some old) (hbusy : old.isDone = false)
    (hcursor : left.cursor? = old.cursor?)
    (hpromise : left.promise? = old.promise?) (kept : Option Ledger)
    (saves : Nat) (sent : List Dispatch)
    (howed : old.owed.map (Dispatch.mk s.clock) =
      sent ++ left.owed.map (Dispatch.mk s.clock))
    (hsent : task = worker ∨ sent = []) :
    s.Carries (({ s with
      kept := kept, saves := saves, outbox := s.outbox ++ sent } :
      Service).setRoutine task left) worker where
  stays := by constructor <;> simp
  leaves := by
    intro id
    refine ⟨by simp, by simp [attempts?], by simp, by simp, by simp, ?_, ?_⟩
    · intro task' _
      rw [cursor?_setRoutine]
      split
      next hsame => rw [hsame, cursor?_of_get? htask, hcursor]
      next => rfl
    · intro task' cursor _ hfollows
      have hne : task' ≠ task := by
        rintro rfl
        cases htask.symm.trans hfollows
        cases hbusy
      rw [tasks_setRoutine, if_neg hne, hfollows]
  sent := by
    refine ⟨sent, by simp, ?_⟩
    rw [owes_setRoutine]
    split
    next hsame => simpa [hsame, owes_of_get? htask] using howed
    next hother =>
      have hnothing : sent = [] :=
        hsent.resolve_left fun same => hother same.symm
      simp [hnothing, owes]
  promise := by
    rw [promise?_setRoutine]
    split
    next hsame => rw [hsame, promise?, htask, Option.bind_some, hpromise]
    next => rfl

theorem Helps.carries (hhelps : s.Helps worker e) :
    s.Carries (s.step e) worker := by
  cases hhelps with
  | save task saved next htask =>
    cases hwriting : s.isWriting with
    | true =>
      rw [step_of_idle htask (by simp [isReady, hwriting])]
      exact carries_refl s worker
    | false =>
      rw [step_of_saves htask hwriting]
      have hcarries := carries_setRoutine worker (.write s.ledger next) htask
        rfl rfl rfl s.kept s.saves [] rfl (.inr rfl)
      simpa using hcarries
  | write task saved copy next htask =>
    cases saved with
    | false =>
      rw [step_of_loses htask]
      have hcarries := carries_setRoutine worker next htask rfl rfl rfl s.kept
        s.saves [] rfl (.inr rfl)
      simpa using hcarries
    | true =>
      rw [step_of_writes htask]
      have hcarries := carries_setRoutine worker next htask rfl rfl rfl
        (some copy) (s.saves + 1) [] rfl (.inr rfl)
      simpa using hcarries
  | send saved r next htask =>
    rw [step_of_sends htask]
    exact carries_setRoutine worker next htask rfl rfl rfl s.kept s.saves
      [⟨s.clock, r⟩] rfl (.inl rfl)

theorem carries_run {pieces : List Event}
    (hadvances : s.Advances worker pieces) :
    s.Carries (s.run pieces) worker := by
  induction pieces generalizing s with
  | nil => exact carries_refl s worker
  | cons e rest ih => exact hadvances.1.carries.trans (ih hadvances.2)

/-! ## The first piece -/

theorem Transition.clock (htransition : Transition s e t)
    (hwithin : e.isWithin = true) :
    t.clock = s.clock := by
  cases htransition with
  | pass => cases hwithin
  | start | shutdown => cases hwithin
  | resend id r claimed _ hclaim =>
    obtain ⟨_, _, _, _, rfl⟩ := claim_eq_some_iff.1 hclaim
    rfl
  | fire generation sleeper r claimed _ _ _ _ hclaim =>
    obtain ⟨_, _, _, _, rfl⟩ := claim_eq_some_iff.1 hclaim
    rfl
  | catchUp task saved id rest resent watching r claimed _ _ hclaim =>
    obtain ⟨_, _, _, _, rfl⟩ := claim_eq_some_iff.1 hclaim
    simp
  | chore task saved old left u _ _ hchore => cases hchore <;> simp
  | retire | enroll | restate | hear | rescan | drop | leave => simp
  | _ => rfl

theorem Transition.stays (htransition : Transition s e t)
    (hwithin : e.isWithin = true) :
    s.Stays t where
  config := htransition.config.symm
  source := by
    rcases htransition.frames.source with hsame | ⟨id, status, rfl, _⟩ |
      ⟨id, rfl, _⟩
    · exact hsame.symm
    · cases hwithin
    · cases hwithin
  clock := (htransition.clock hwithin).symm
  calendar := by
    rcases htransition.frames.calendar with hsame | rfl
    · exact hsame.symm
    · cases hwithin
  shutDown := by
    rcases htransition.frames.shutDown with hsame | rfl
    · exact hsame.symm
    · cases hwithin

/-- An operation begins with an event, or a message is followed, or nothing
happens. -/
theorem undertake_cases (s : Service) (p : Operation) :
    s.undertake p = s ∨ (∃ e, e.isWithin = true ∧ s.undertake p = s.step e) ∨
      s.undertake p = s.attachTracked p.id := by
  cases p with
  | register r => exact .inr (.inl ⟨.register r, rfl, rfl⟩)
  | resend id => exact .inr (.inl ⟨.resend id, rfl, rfl⟩)
  | fire id =>
    simp only [undertake]
    split
    next timer _ => exact .inr (.inl ⟨.wake timer.generation, rfl, rfl⟩)
    next => exact .inl rfl
  | notice id =>
    simp only [undertake]
    split
    next task _ => exact .inr (.inl ⟨.resume task true, rfl, rfl⟩)
    next => exact .inl rfl
  | follow id => exact .inr (.inr rfl)

/-- What operations start from and lead to: nothing belongs to two messages,
every record stands under its own id, and one task saves at a time. -/
structure InOrder (s : Service) : Prop where
  separate : s.Separate
  keyed : s.ledger.Keyed
  saving : s.Saving

theorem InOrder.step (hs : s.InOrder) (e : Event) : (s.step e).InOrder where
  separate := hs.separate.transition (transition_step s e)
  keyed := (transition_step s e).keyed hs.keyed
  saving := (course_step s e).saving hs.saving

theorem InOrder.run (hs : s.InOrder) (events : List Event) :
    (s.run events).InOrder := by
  induction events generalizing s with
  | nil => exact hs
  | cons e rest ih => exact ih (hs.step e)

theorem InOrder.undertake (hs : s.InOrder) (p : Operation) :
    (s.undertake p).InOrder := by
  rcases undertake_cases s p with hsame | ⟨e, _, hstep⟩ | hfollow
  · rwa [hsame]
  · rw [hstep]
    exact hs.step e
  · rw [hfollow]
    exact ⟨hs.separate.attachTracked p.id, by simpa using hs.keyed,
      hs.saving.of_adds (adds_attachTracked s p.id)⟩

theorem stays_undertake (s : Service) (p : Operation) :
    s.Stays (s.undertake p) := by
  rcases undertake_cases s p with hsame | ⟨e, hwithin, hstep⟩ | hfollow
  · rw [hsame]
    exact s.stays_refl
  · rw [hstep]
    exact (transition_step s e).stays hwithin
  · rw [hfollow]
    exact s.stays_attachTracked p.id

/-- What an event within the service may leave a task to hand over. -/
theorem owed_of_step (hkeyed : s.ledger.Keyed)
    (hclaimed : ∀ a, s.claimed? e = some a → a.id = id)
    (hsender : s.sender? e = none)
    (hold : ∀ old, s.tasks.get? task = some old → old.owed = [])
    (htask : (s.step e).tasks.get? task = some routine) :
    ∀ r ∈ routine.owed, r.id = id := by
  cases hclaim : s.claimed? e with
  | none =>
    have hnothing : routine.owed = [] := by
      rcases (course_step s e).owed_cases hclaim hsender htask with hclear |
        ⟨old, hget, howed⟩
      · exact hclear
      · rw [← howed, hold old hget]
    simp [hnothing]
  | some a =>
    have hclaims := claims_step hclaim
    obtain ⟨next, hclear, hnew⟩ := hclaims.task
    by_cases hsame : task = a.task
    · rw [hsame, hnew] at htask
      cases htask
      have hrecord : a.record.id = id := by
        rw [hkeyed a.id a.record (Ledger.find?_eq_some_iff.1 hclaims.live).1,
          hclaimed a hclaim]
      simp [hclear.owed, hrecord]
    · rw [hclaims.others task hsame] at htask
      simp [hold routine htask]

theorem id_of_attempt? {bound : ResendBound} {sweeping : Bool} {a : Attempt}
    (hattempt : s.attempt? task id bound sweeping = some a) : a.id = id := by
  obtain ⟨_, r, t, _, rfl⟩ := attempt?_eq_some_iff.1 hattempt
  rfl

/-- What an operation leaves its task to hand over is the message that it is
about. -/
theorem InOrder.id_of_owes (hs : s.InOrder) (hoffers : s.Offers p) :
    ∀ r ∈ (s.undertake p).owes (s.worker p), r.id = p.id := by
  have hunused : ∀ old, s.tasks.get? s.nextTask = some old → old.owed = [] := by
    intro old hget
    rw [hs.separate.unused _ (Nat.le_refl _)] at hget
    cases hget
  cases htask : (s.undertake p).tasks.get? (s.worker p) with
  | none => simp [owes, htask]
  | some routine =>
    rw [owes_of_get? htask]
    cases p with
    | register r =>
      have hclaimed : ∀ a, s.claimed? (.register r) = some a → a.id = r.id := by
        intro a ha
        cases ha
      exact owed_of_step hs.keyed hclaimed rfl hunused htask
    | resend id =>
      have hclaimed : ∀ a, s.claimed? (.resend id) = some a → a.id = id :=
        fun _ ha => id_of_attempt? ha
      exact owed_of_step hs.keyed hclaimed rfl hunused htask
    | fire id =>
      simp only [Service.undertake, worker] at htask
      split at htask
      next timer htimer =>
        obtain ⟨due, hdue⟩ := hs.separate.matched.waiting id timer htimer
        refine owed_of_step hs.keyed ?_ rfl hunused htask
        intro a ha
        simp only [claimed?, hdue] at ha
        split at ha
        next => exact id_of_attempt? ha
        next => cases ha
      next => simp [hunused routine htask]
    | notice id =>
      obtain ⟨task, cursor, hfollower, hfollows⟩ := hoffers
      simp only [Service.undertake, worker, hfollower, Option.getD_some]
        at htask
      refine owed_of_step hs.keyed ?_ ?_ ?_ htask
      · simp [claimed?, hfollows]
      · simp [sender?, hfollows]
      · rintro old hold
        cases hfollows.symm.trans hold
        rfl
    | follow id =>
      rcases adds_attachTracked s id _ _ htask with hold | hclear
      · simp [hunused routine hold]
      · simp [hclear.owed]

theorem outbox_undertake (hoffers : s.Offers p) :
    (s.undertake p).outbox = s.outbox := by
  cases p with
  | register r => exact (course_step s _).outbox_eq rfl
  | resend id => exact (course_step s _).outbox_eq rfl
  | fire id =>
    simp only [undertake]
    split
    next => exact (course_step s _).outbox_eq rfl
    next => rfl
  | notice id =>
    obtain ⟨task, cursor, hfollower, hfollows⟩ := hoffers
    simp only [undertake, hfollower]
    exact (course_step s _).outbox_eq (by simp [sender?, hfollows])
  | follow id => simp [undertake]

end Service

end Redelivery
