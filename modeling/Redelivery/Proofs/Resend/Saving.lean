import Redelivery.Proofs.Resend.Journal

/-!
# Attempts are kept before they are spent

One task saves at a time.  The copy that it takes holds every attempt that was
claimed by then, and while a message keeps its record its counter never falls.
So the save that follows a claim leaves the attempt in the store, and no later
save takes it out again.
-/

namespace Redelivery

/-- A message is counted, up to `n` at least. -/
def Ledger.Holds (l : Ledger) (id : MessageId) (n : UInt32) : Prop :=
  ∃ m, l.attempts? id = some m ∧ n ≤ m

namespace Service

/-- A task is saving a copy of the ledger. -/
def Saves (s : Service) (task : Nat) (copy : Ledger) : Prop :=
  ∃ next, s.tasks.get? task = some (.write copy next)

/-- One task saves at a time, and has nothing to save again when it is done. -/
structure Saving (s : Service) : Prop where
  plain : ∀ task routine, s.tasks.get? task = some routine →
    routine.isPlain = true ∨ ∃ copy next,
      routine = .write copy next ∧ next.isPlain = true
  single : ∀ task task' copy copy', s.Saves task copy → s.Saves task' copy' →
    task = task'

variable {s t : Service} {e : Event} {id : MessageId} {a : Attempt} {task : Nat}
  {copy : Ledger} {n : UInt32}

/-! ## One save at a time -/

theorem Fresh.saving (hs : s.Fresh) : s.Saving where
  plain := by
    intro task routine htask
    simp [hs.tasks] at htask
  single := by
    rintro task task' copy copy' ⟨next, htask⟩
    simp [hs.tasks] at htask

theorem not_saves_of_plain {routine : Routine}
    (htask : s.tasks.get? task = some routine)
    (hplain : routine.isPlain = true) :
    ¬s.Saves task copy := by
  rintro ⟨next, hsaves⟩
  rw [htask] at hsaves
  cases hsaves
  cases hplain

theorem not_saves_of_isWriting (hfree : s.isWriting = false) :
    ¬s.Saves task copy := by
  rintro ⟨next, htask⟩
  have hvalue : Routine.write copy next ∈ s.tasks.values :=
    (Table.mem_values_iff s.tasks _).2 ⟨task, htask⟩
  have hnone := List.any_eq_false.1 hfree _ hvalue
  exact hnone rfl

theorem saves_of_isWriting (hwriting : s.isWriting = true) :
    ∃ task copy, s.Saves task copy := by
  obtain ⟨routine, hvalue, hwrites⟩ := List.any_eq_true.1 hwriting
  obtain ⟨task, htask⟩ := (Table.mem_values_iff s.tasks routine).1 hvalue
  cases routine with
  | write copy next => exact ⟨task, copy, next, htask⟩
  | _ => cases hwrites

theorem Saving.plain_of_write (hs : s.Saving) {next : Routine}
    (htask : s.tasks.get? task = some (.write copy next)) :
    next.isPlain = true := by
  rcases hs.plain task _ htask with hplain | ⟨copy', next', hwrite, hplain⟩
  · cases hplain
  · cases hwrite
    exact hplain

theorem Saving.plain_of_send (hs : s.Saving) {r : Record} {next : Routine}
    (htask : s.tasks.get? task = some (.send r next)) :
    next.isPlain = true := by
  rcases hs.plain task _ htask with hplain | ⟨copy', next', hwrite, _⟩
  · exact hplain
  · cases hwrite

theorem Saving.plain_of_save (hs : s.Saving) {next : Routine}
    (htask : s.tasks.get? task = some (.save next)) : next.isPlain = true := by
  rcases hs.plain task _ htask with hplain | ⟨copy', next', hwrite, _⟩
  · exact hplain
  · cases hwrite

/-- A task that goes on with something plain saves nothing, and the others go on
with what they did. -/
theorem saves_setRoutine_of_plain {left : Routine}
    (hplain : left.isPlain = true) {worker : Nat}
    (hsaves : (s.setRoutine worker left).Saves task copy) :
    task ≠ worker ∧ s.Saves task copy := by
  obtain ⟨next, htask⟩ := hsaves
  rw [tasks_setRoutine] at htask
  split at htask
  next =>
    split at htask
    next => cases htask
    next =>
      cases htask
      cases hplain
  next hother => exact ⟨hother, next, htask⟩

theorem Adds.saves (hadds : Adds s t) (hsaves : t.Saves task copy) :
    s.Saves task copy := by
  obtain ⟨next, htask⟩ := hsaves
  rcases hadds task _ htask with hbefore | hclear
  · exact ⟨next, hbefore⟩
  · cases hclear.plain

theorem Saving.of_adds (hs : s.Saving) (hadds : Adds s t) : t.Saving where
  plain := by
    intro task routine htask
    rcases hadds task routine htask with hbefore | hclear
    · exact hs.plain task routine hbefore
    · exact .inl hclear.plain
  single := fun task task' copy copy' hsaves hsaves' =>
    hs.single task task' copy copy' (hadds.saves hsaves) (hadds.saves hsaves')

/-- When the one that saves comes to the end of it, nobody saves. -/
theorem Saving.isWriting_step (hs : s.Saving) {copy : Ledger}
    (hsaves : s.Saves task copy) :
    (s.step (.resume task true)).isWriting = false := by
  obtain ⟨next, htask⟩ := hsaves
  rw [Bool.eq_false_iff, step_of_writes htask]
  intro hagain
  obtain ⟨task', copy', hsaves'⟩ := saves_of_isWriting hagain
  obtain ⟨hother, hbefore⟩ :=
    saves_setRoutine_of_plain (hs.plain_of_write htask) hsaves'
  exact hother (hs.single task' task copy' copy hbefore ⟨next, htask⟩)

/-- A task that saves did so before, or it waited until nobody else did, and has
just taken a copy of the ledger. -/
theorem Course.saves_cases (hcourse : Course s e t) (hs : s.Saving)
    (hsaves : t.Saves task copy) :
    s.Saves task copy ∨
      s.isWriting = false ∧ copy = s.ledger ∧
        ∃ saved next, e = .resume task saved ∧
          s.tasks.get? task = some (.save next) := by
  cases hcourse with
  | claim a _ _ hclaims =>
    obtain ⟨next, htask⟩ := hsaves
    by_cases hsame : task = a.task
    · obtain ⟨_, _, hnew⟩ := hclaims.task
      rw [hsame, hnew] at htask
      cases htask
    · rw [hclaims.others task hsame] at htask
      exact .inl ⟨next, htask⟩
  | copy worker saved next hworker hfree =>
    obtain ⟨next', htask⟩ := hsaves
    rw [tasks_setRoutine] at htask
    split at htask
    next hsame =>
      cases htask
      exact .inr ⟨hfree, rfl, saved, next,
        by rw [hsame], by rw [hsame, hworker]⟩
    next => exact .inl ⟨next', htask⟩
  | keep worker copy' next hworker =>
    exact .inl (saves_setRoutine_of_plain (hs.plain_of_write hworker) hsaves).2
  | lose worker copy' next hworker =>
    exact .inl (saves_setRoutine_of_plain (hs.plain_of_write hworker) hsaves).2
  | send worker saved r next hworker =>
    exact .inl (saves_setRoutine_of_plain (hs.plain_of_send hworker) hsaves).2
  | quiet _ _ _ _ _ htasks => exact .inl (htasks.saves hsaves)

/-- Where no attempt is claimed and no save ends, the store keeps what it holds,
and no task comes to hand a message over. -/
theorem Course.sends_of_none (hcourse : Course s e t)
    (hclaimed : s.claimed? e = none) (hsender : s.sender? e = none)
    (hends : ∀ task saved copy, e = .resume task saved → ¬s.Saves task copy) :
    t.kept = s.kept ∧ ∀ task r next, t.tasks.get? task = some (.send r next) →
      s.tasks.get? task = some (.send r next) := by
  cases hcourse with
  | claim a hsome => cases hclaimed.symm.trans hsome
  | keep worker copy next hworker =>
    exact absurd ⟨next, hworker⟩ (hends worker _ copy rfl)
  | lose worker copy next hworker =>
    exact absurd ⟨next, hworker⟩ (hends worker _ copy rfl)
  | send worker saved r next hworker => simp [sender?, hworker] at hsender
  | copy worker saved next hworker =>
    refine ⟨by simp, ?_⟩
    intro task r next' htask
    rw [tasks_setRoutine] at htask
    split at htask
    next => cases htask
    next => exact htask
  | quiet _ _ _ hkept _ htasks =>
    refine ⟨hkept, ?_⟩
    intro task r next htask
    rcases htasks task _ htask with hbefore | hclear
    · exact hbefore
    · cases hclear.owed

/-- The store keeps what it holds, or takes over the one copy that was being
saved. -/
theorem Course.kept_cases (hcourse : Course s e t) (hs : s.Saving) :
    t.kept = s.kept ∨
      ∃ task copy, e = .resume task true ∧ s.Saves task copy ∧
        t.kept = some copy ∧
        ∀ task' copy', ¬t.Saves task' copy' := by
  cases hcourse with
  | claim a _ _ hclaims => exact .inl hclaims.kept
  | quiet _ _ _ hkept => exact .inl hkept
  | copy | lose | send => exact .inl (by simp)
  | keep worker copy next hworker =>
    refine .inr ⟨worker, copy, rfl, ⟨next, hworker⟩, by simp, ?_⟩
    intro task' copy' hsaves
    obtain ⟨hother, hbefore⟩ :=
      saves_setRoutine_of_plain (hs.plain_of_write hworker) hsaves
    exact hother (hs.single task' worker copy' copy hbefore ⟨next, hworker⟩)

theorem Course.saving (hcourse : Course s e t) (hs : s.Saving) : t.Saving where
  plain := by
    intro task routine htask
    have hset {worker : Nat} {left : Routine} {u : Service}
        (hu : u.tasks = s.tasks)
        (hleft : left.isPlain = true ∨ ∃ copy next,
          left = .write copy next ∧ next.isPlain = true) (htask :
            (u.setRoutine worker left).tasks.get? task = some routine) :
        routine.isPlain = true ∨
          ∃ copy next, routine = .write copy next ∧ next.isPlain = true := by
      rw [tasks_setRoutine, hu] at htask
      split at htask
      next =>
        split at htask
        next => cases htask
        next =>
          cases htask
          exact hleft
      next => exact hs.plain task routine htask
    cases hcourse with
    | claim a _ _ hclaims =>
      by_cases hsame : task = a.task
      · obtain ⟨next, hclear, hnew⟩ := hclaims.task
        rw [hsame, hnew] at htask
        cases htask
        exact .inl hclear.plain
      · rw [hclaims.others task hsame] at htask
        exact hs.plain task routine htask
    | copy worker saved next hworker =>
      exact hset rfl (.inr ⟨_, next, rfl, hs.plain_of_save hworker⟩) htask
    | keep worker copy next hworker =>
      exact hset (u := { s with kept := some copy, saves := s.saves + 1 }) rfl
        (.inl (hs.plain_of_write hworker)) htask
    | lose worker copy next hworker =>
      exact hset rfl (.inl (hs.plain_of_write hworker)) htask
    | send worker saved r next hworker =>
      exact hset (u := { s with outbox := s.outbox ++ [⟨s.clock, r⟩] }) rfl
        (.inl (hs.plain_of_send hworker)) htask
    | quiet _ _ _ _ _ htasks =>
      exact (hs.of_adds htasks).plain task routine htask
  single := by
    intro task task' copy copy' hsaves hsaves'
    rcases hcourse.saves_cases hs hsaves with hold | ⟨hfree, _, saved, _, he, _⟩
    · rcases hcourse.saves_cases hs hsaves' with hold' | ⟨hfree, _⟩
      · exact hs.single task task' copy copy' hold hold'
      · exact absurd hold (not_saves_of_isWriting hfree)
    · rcases hcourse.saves_cases hs hsaves' with hold' |
        ⟨_, _, saved', _, he', _⟩
      · exact absurd hold' (not_saves_of_isWriting hfree)
      · rw [he] at he'
        cases he'
        rfl

/-! ## What a save leaves in the store -/

/-- A counter that was reached stays so while its message keeps its record. -/
theorem Course.holds (hcourse : Course s e t) (hcounted : s.ledger.Counted)
    (hretains : s.Retains id t) (hholds : s.ledger.Holds id n) :
    t.ledger.Holds id n := by
  obtain ⟨m, hcount, hle⟩ := hholds
  have hm : s.attempts? id = some m := hcount
  cases hcourse with
  | claim a _ _ hclaims =>
    have hafter := hclaims.attempts?_eq id
    split at hafter
    next hsame =>
      subst hsame
      refine ⟨a.count, hafter, UInt32.le_trans hle ?_⟩
      rw [hclaims.count, hm]
      exact le_nextCount m
    next => exact ⟨m, hafter.trans hm, hle⟩
  | quiet hclaimed hsender hledger hkept houtbox htasks =>
    have hquiet := Course.quiet hclaimed hsender hledger hkept houtbox htasks
    exact ⟨m, (hquiet.attempts?_eq hclaimed hcounted hretains).trans hm, hle⟩
  | copy | keep | lose | send => exact ⟨m, by simpa using hcount, hle⟩

theorem Course.le_made (hcourse : Course s e t) (hcounted : s.ledger.Counted)
    (hretains : s.Retains id t) : s.made id ≤ t.made id := by
  cases hcourse with
  | claim a _ _ hclaims =>
    rw [made, made, hclaims.attempts?_eq]
    split
    next hsame =>
      rw [hsame, hclaims.count]
      exact UInt32.le_iff_toNat_le.1 (le_nextCount _)
    next => exact Nat.le_refl _
  | quiet hclaimed hsender hledger hkept houtbox htasks =>
    have hquiet := Course.quiet hclaimed hsender hledger hkept houtbox htasks
    exact Nat.le_of_eq
      (by rw [made, made, hquiet.attempts?_eq hclaimed hcounted hretains])
  | copy | keep | lose | send => simp [made, attempts?]

/-- The ledger counts an attempt, and so does the copy that a task is saving, if
it is. -/
structure Claimed (s : Service) (task : Nat) (id : MessageId)
    (n : UInt32) : Prop where
  counted : s.ledger.Counted
  saving : s.Saving
  ledger : s.ledger.Holds id n
  copy : ∀ copy, s.Saves task copy → copy.Holds id n

/-- The store counts an attempt, and so does all that may come to be stored. -/
structure Secured (s : Service) (id : MessageId) (n : UInt32) : Prop where
  counted : s.ledger.Counted
  saving : s.Saving
  ledger : s.ledger.Holds id n
  copies : ∀ task copy, s.Saves task copy → copy.Holds id n
  kept : ∃ l, s.kept = some l ∧ l.Holds id n

theorem Claimed.step (hs : s.Claimed task id n)
    (hretains : s.Retains id (s.step e)) :
    (s.step e).Claimed task id n where
  counted := (transition_step s e).counted hs.counted
  saving := (course_step s e).saving hs.saving
  ledger := (course_step s e).holds hs.counted hretains hs.ledger
  copy := by
    intro copy hsaves
    rcases (course_step s e).saves_cases hs.saving hsaves with hold |
      ⟨_, rfl, _⟩
    · exact hs.copy copy hold
    · exact hs.ledger

theorem Secured.step (hs : s.Secured id n)
    (hretains : s.Retains id (s.step e)) :
    (s.step e).Secured id n where
  counted := (transition_step s e).counted hs.counted
  saving := (course_step s e).saving hs.saving
  ledger := (course_step s e).holds hs.counted hretains hs.ledger
  copies := by
    intro task copy hsaves
    rcases (course_step s e).saves_cases hs.saving hsaves with hold |
      ⟨_, rfl, _⟩
    · exact hs.copies task copy hold
    · exact hs.ledger
  kept := by
    rcases (course_step s e).kept_cases hs.saving with hsame |
      ⟨task, copy, _, hsaves, hkept, _⟩
    · rw [hsame]
      exact hs.kept
    · exact ⟨copy, hkept, hs.copies task copy hsaves⟩

/-- The save of the task that claimed the attempt takes place. -/
theorem Claimed.secured (hs : s.Claimed task id n) (hsaves : s.Saves task copy)
    (hretains : s.Retains id (s.step (.resume task true))) :
    (s.step (.resume task true)).Secured id n where
  counted := (transition_step s _).counted hs.counted
  saving := (course_step s _).saving hs.saving
  ledger := (course_step s _).holds hs.counted hretains hs.ledger
  copies := by
    intro task' copy' hsaves'
    obtain ⟨next, htask⟩ := hsaves
    rw [step_of_writes htask] at hsaves'
    obtain ⟨hother, hbefore⟩ :=
      saves_setRoutine_of_plain (hs.saving.plain_of_write htask) hsaves'
    exact absurd
      (hs.saving.single task' task copy' copy hbefore ⟨next, htask⟩) hother
  kept := by
    have hcopy := hs.copy copy hsaves
    obtain ⟨next, htask⟩ := hsaves
    rw [step_of_writes htask]
    exact ⟨copy, by simp, hcopy⟩

theorem Claimed.run {events : List Event} (hs : s.Claimed task id n)
    (hkeeps : s.Keeps id events) : (s.run events).Claimed task id n := by
  induction events generalizing s with
  | nil => exact hs
  | cons e rest ih => exact ih (hs.step hkeeps.1) hkeeps.2

theorem Secured.run {events : List Event} (hs : s.Secured id n)
    (hkeeps : s.Keeps id events) : (s.run events).Secured id n := by
  induction events generalizing s with
  | nil => exact hs
  | cons e rest ih => exact ih (hs.step hkeeps.1) hkeeps.2

theorem saving_run (hs : s.Saving) (events : List Event) :
    (s.run events).Saving := by
  induction events generalizing s with
  | nil => exact hs
  | cons e rest ih => exact ih ((course_step s e).saving hs)

/-- The task that has claimed an attempt does not save yet. -/
theorem Claims.claimed (hclaims : Claims s a t) (hcounted : t.ledger.Counted)
    (hsaving : t.Saving) : t.Claimed a.task a.id a.count where
  counted := hcounted
  saving := hsaving
  ledger := ⟨a.count, by simp [hclaims.ledger], UInt32.le_refl _⟩
  copy := by
    intro copy hsaves
    obtain ⟨next, hclear, hnew⟩ := hclaims.task
    exact absurd hsaves (not_saves_of_plain hnew hclear.plain)

variable {start : Service}

/-- What a task saves after it has claimed an attempt counts the attempt, and
the store does so from then on. -/
theorem kept_of_saved (hstart : start.Fresh) {first between last : List Event}
    (hclaimed : (start.run first).claimed? e = some a)
    (hsaves : (start.run (first ++ e :: between)).Saves a.task copy)
    (hkeeps : (start.run (first ++ [e])).Keeps a.id
      (between ++ .resume a.task true :: last)) :
    ∃ l, (start.run
      (first ++ e :: (between ++ .resume a.task true :: last))).kept = some l ∧
      l.Holds a.id a.count := by
  have hclaim := claims_step hclaimed
  have hcounted := counted_run hstart.counted (first ++ [e])
  have hsaving := saving_run hstart.saving (first ++ [e])
  rw [run_append, run_cons, run_nil] at hkeeps hcounted hsaving
  rw [run_append, run_cons] at hsaves ⊢
  rw [run_append, run_cons]
  obtain ⟨hbetween, hretains, hlast⟩ := keeps_append.1 hkeeps
  have hready := (hclaim.claimed hcounted hsaving).run hbetween
  exact ((hready.secured hsaves hretains).run hlast).kept

/-! ## What precedes the handing over of a message -/

/-- An event of a run claims an attempt, and at the end of the run that is still
the latest attempt of its task. -/
structure Latest (start : Service) (first : List Event) (e : Event)
    (later : List Event) (a : Attempt) : Prop where
  claimed : (start.run first).claimed? e = some a
  carried : ∃ place,
    ((Journal.opened start).run (first ++ e :: later)).carried.get? a.task =
    some (place, a)

/-- The latest attempt that a task has claimed in a run is for a record. -/
def ClaimedFor (start : Service) (events : List Event) (task : Nat)
    (r : Record) : Prop :=
  ∃ first e later a, events = first ++ e :: later ∧
    start.Latest first e later a ∧
    a.task = task ∧ a.record = r

/-- The latest attempt that a task has claimed in a run is for a record, and a
save of the task has ended since, whether it took place or not. -/
def SavedFor (start : Service) (events : List Event) (task : Nat)
    (r : Record) : Prop :=
  ∃ first e between saved last a copy,
    events = first ++ e :: (between ++ .resume task saved :: last) ∧
      start.Latest first e (between ++ .resume task saved :: last) a ∧
      a.task = task ∧ a.record = r ∧
      (start.run (first ++ e :: between)).Saves task copy

/-- How far a task is on the way from a claim to the gateway. -/
inductive OnTheWay (start : Service) (events : List Event) (task : Nat) :
    Routine → Prop
  | clear (routine : Routine) (howed : routine.owed = []) :
      OnTheWay start events task routine
  | save (r : Record) (next : Routine) (hclear : next.owed = [])
      (hclaimed : start.ClaimedFor events task r) :
      OnTheWay start events task (.save (.send r next))
  | write (copy : Ledger) (r : Record) (next : Routine)
      (hclear : next.owed = [])
      (hclaimed : start.ClaimedFor events task r) :
      OnTheWay start events task (.write copy (.send r next))
  | send (r : Record) (next : Routine) (hclear : next.owed = [])
      (hsaved : start.SavedFor events task r) :
      OnTheWay start events task (.send r next)

variable {events first later : List Event} {r : Record} {routine : Routine}

/-- An attempt stays the latest of its task until the task claims another
one. -/
theorem Latest.append (hlatest : start.Latest first e later a) {e' : Event}
    (hother : ∀ a', (start.run (first ++ e :: later)).claimed? e' = some a' →
      a'.task ≠ a.task) :
    start.Latest first e (later ++ [e']) a where
  claimed := hlatest.claimed
  carried := by
    obtain ⟨place, hcarried⟩ := hlatest.carried
    refine ⟨place, ?_⟩
    rw [← List.cons_append, ← List.append_assoc, Journal.run_append,
      Journal.run_cons, Journal.run_nil, Journal.carried_step_of_ne, hcarried]
    rw [Journal.service_run, Journal.service_opened]
    exact hother

theorem ClaimedFor.append (hclaimed : start.ClaimedFor events task r)
    {e : Event}
    (hother : ∀ a, (start.run events).claimed? e = some a → a.task ≠ task) :
    start.ClaimedFor (events ++ [e]) task r := by
  obtain ⟨first, e', later, a, rfl, hlatest, rfl, hrecord⟩ := hclaimed
  exact ⟨first, e', later ++ [e], a,
    by simp, hlatest.append hother, rfl, hrecord⟩

theorem SavedFor.append (hsaved : start.SavedFor events task r) {e : Event}
    (hother : ∀ a, (start.run events).claimed? e = some a → a.task ≠ task) :
    start.SavedFor (events ++ [e]) task r := by
  obtain ⟨first, e', between, saved, last, a, copy, rfl, hlatest, rfl, hsave⟩ :=
    hsaved
  have hmore := hlatest.append hother
  rw [List.append_assoc, List.cons_append] at hmore
  exact ⟨first, e', between, saved, last ++ [e], a, copy,
    by simp, hmore, rfl, hsave⟩

theorem OnTheWay.append (hway : OnTheWay start events task routine) {e : Event}
    (hother : ∀ a, (start.run events).claimed? e = some a → a.task ≠ task) :
    OnTheWay start (events ++ [e]) task routine := by
  cases hway with
  | clear _ howed => exact .clear _ howed
  | save r next hclear hclaimed =>
    exact .save r next hclear (hclaimed.append hother)
  | write copy r next hclear hclaimed =>
    exact .write copy r next hclear (hclaimed.append hother)
  | send r next hclear hsaved =>
    exact .send r next hclear (hsaved.append hother)

/-- A save that ends leaves the message to be handed over. -/
theorem OnTheWay.saved {next : Routine}
    (hway : OnTheWay start events task (.write copy next))
    (htask : (start.run events).tasks.get? task = some (.write copy next))
    (saved : Bool) :
    OnTheWay start (events ++ [.resume task saved]) task next := by
  cases hway with
  | clear _ howed => exact .clear _ howed
  | write _ r left hclear hclaimed =>
    obtain ⟨first, e, later, a, rfl, hlatest, hof, hrecord⟩ := hclaimed
    have hquiet : ∀ a', (start.run (first ++ e :: later)).claimed?
        (.resume task saved) = some a' →
        a'.task ≠ a.task := by
      simp [claimed?, htask]
    have hmore := hlatest.append hquiet
    exact .send r left hclear
      ⟨first, e, later, saved, [], a, copy,
        by simp, hmore, hof, hrecord, _, htask⟩

theorem OnTheWay.copied {next : Routine}
    (hway : OnTheWay start events task (.save next)) (copy : Ledger) :
    OnTheWay start events task (.write copy next) := by
  cases hway with
  | clear _ howed => exact .clear _ howed
  | save r left hclear hclaimed => exact .write copy r left hclear hclaimed

theorem OnTheWay.sent {next : Routine}
    (hway : OnTheWay start events task (.send r next)) :
    next.owed = [] := by
  cases hway with
  | clear _ howed => cases howed
  | send _ _ hclear => exact hclear

/-- A task that goes on without a claim is on its way, as the others are. -/
theorem onTheWay_setRoutine {worker : Nat} {left : Routine}
    (hclaimed : (start.run events).claimed? e = none)
    (hothers : ∀ task routine, s.tasks.get? task = some routine →
      OnTheWay start events task routine)
    (hleft : OnTheWay start (events ++ [e]) worker left)
    (htask : (s.setRoutine worker left).tasks.get? task = some routine) :
    OnTheWay start (events ++ [e]) task routine := by
  rw [tasks_setRoutine] at htask
  split at htask
  next hsame =>
    split at htask
    next => cases htask
    next =>
      cases htask
      rwa [hsame]
  next => exact (hothers task routine htask).append (by simp [hclaimed])

theorem Course.onTheWay (hcourse : Course (start.run events) e t)
    (hbefore : ∀ task routine, (start.run events).tasks.get? task =
      some routine →
      OnTheWay start events task routine)
    (htask : t.tasks.get? task = some routine) :
    OnTheWay start (events ++ [e]) task routine := by
  cases hcourse with
  | claim a hclaimed _ hclaims =>
    by_cases hsame : task = a.task
    · obtain ⟨next, hclear, hnew⟩ := hclaims.task
      rw [hsame, hnew] at htask
      cases htask
      refine .save a.record next hclear.owed
        ⟨events, e, [], a, rfl, ⟨hclaimed, ?_⟩, hsame.symm, rfl⟩
      exact Journal.carried_run_of_claimed hclaimed
    · rw [hclaims.others task hsame] at htask
      refine (hbefore task routine htask).append fun a' ha' => ?_
      cases hclaimed.symm.trans ha'
      exact fun same => hsame same.symm
  | copy worker saved next hworker =>
    have hquiet :
        (start.run events).claimed? (.resume worker saved) = none := by
      simp [claimed?, hworker]
    have hway := (hbefore worker _ hworker).copied (start.run events).ledger
    exact onTheWay_setRoutine hquiet hbefore
      (hway.append (by simp [hquiet])) htask
  | keep worker copy next hworker =>
    exact onTheWay_setRoutine
      (s :=
        { start.run events with
          kept := some copy, saves := (start.run events).saves + 1 })
      (by simp [claimed?, hworker]) hbefore
      ((hbefore worker _ hworker).saved hworker true) htask
  | lose worker copy next hworker =>
    exact onTheWay_setRoutine (by simp [claimed?, hworker]) hbefore
      ((hbefore worker _ hworker).saved hworker false) htask
  | send worker saved r next hworker =>
    exact onTheWay_setRoutine
      (s := { start.run events with
        outbox :=
          (start.run events).outbox ++ [⟨(start.run events).clock, r⟩] })
      (by simp [claimed?, hworker]) hbefore
      (.clear _ (hbefore worker _ hworker).sent) htask
  | quiet hclaimed _ _ _ _ htasks =>
    rcases htasks task routine htask with hold | hclear
    · exact (hbefore task routine hold).append (by simp [hclaimed])
    · exact .clear _ hclear.owed

theorem onTheWay_run (hstart : start.Fresh) (events : List Event) :
    ∀ task routine, (start.run events).tasks.get? task = some routine →
      OnTheWay start events task routine := by
  have hfrom (events done : List Event)
      (hdone : ∀ task routine, (start.run done).tasks.get? task = some routine →
        OnTheWay start done task routine) :
      ∀ task routine,
        (start.run (done ++ events)).tasks.get? task = some routine →
        OnTheWay start (done ++ events) task routine := by
    induction events generalizing done with
    | nil => simpa using hdone
    | cons e rest ih =>
      have hnext := ih (done ++ [e]) fun task routine htask => by
        rw [run_concat] at htask
        exact (course_step (start.run done) e).onTheWay hdone htask
      simpa using hnext
  refine hfrom events [] ?_
  intro task routine htask
  simp [hstart.tasks] at htask

/-- A message is handed over only where an attempt was claimed for it and a save
of the task has ended since. -/
theorem saved_of_sent (hstart : start.Fresh) {next : Routine}
    (htask : (start.run events).tasks.get? task = some (.send r next)) :
    start.SavedFor events task r := by
  cases onTheWay_run hstart events task _ htask with
  | clear _ howed => cases howed
  | send _ _ _ hsaved => exact hsaved

end Service

end Redelivery
