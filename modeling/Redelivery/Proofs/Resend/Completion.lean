import Redelivery.Proofs.Resend.Saving

/-!
# What is begun can be finished

A task that is to save waits for the one that is saving, and for nothing else.
Whoever saves comes to the end of it, so there are always some pieces after
which a task has saved and handed over all that it had to.
-/

namespace Redelivery

namespace Routine

/-- Whether a task has nothing more to save or to hand over for now. -/
def isDone : Routine → Bool
  | save _ | write .. | send .. => false
  | _ => true

theorem owed_of_isDone {routine : Routine} (hdone : routine.isDone = true) :
    routine.owed = [] := by
  cases routine with
  | save | write | send => cases hdone
  | _ => rfl

end Routine

namespace Service

/-- A task has nothing more to save or to hand over. -/
def Done (s : Service) (task : Nat) : Prop :=
  ∀ routine, s.tasks.get? task = some routine → routine.isDone = true

/-- A piece on the way of a task to its end: some task goes on to save, or the
task itself hands a message over. -/
inductive Helps (s : Service) (worker : Nat) : Event → Prop
  | save (task : Nat) (saved : Bool) (next : Routine)
      (htask : s.tasks.get? task = some (.save next)) :
      Helps s worker (.resume task saved)
  | write (task : Nat) (saved : Bool) (copy : Ledger) (next : Routine)
      (htask : s.tasks.get? task = some (.write copy next)) :
      Helps s worker (.resume task saved)
  | send (saved : Bool) (r : Record) (next : Routine)
      (htask : s.tasks.get? worker = some (.send r next)) :
      Helps s worker (.resume worker saved)

/-- Such pieces, one after the other. -/
def Advances (s : Service) (worker : Nat) : List Event → Prop
  | [] => True
  | e :: rest => s.Helps worker e ∧ (s.step e).Advances worker rest

variable {s : Service} {task worker : Nat} {routine : Routine}

theorem eq_of_get?_setRoutine {left : Routine}
    (htask : (s.setRoutine task left).tasks.get? task = some routine) :
    routine = left := by
  rw [tasks_setRoutine, if_pos rfl] at htask
  split at htask
  next => cases htask
  next => exact (Option.some.inj htask).symm

theorem Saving.isWriting_of_sends (hs : s.Saving) (hfree : s.isWriting = false)
    {r : Record} {next : Routine}
    (htask : s.tasks.get? task = some (.send r next)) :
    (s.step (.resume task true)).isWriting = false := by
  rw [Bool.eq_false_iff, step_of_sends htask]
  intro hwriting
  obtain ⟨task', copy, hsaves⟩ := saves_of_isWriting hwriting
  have hbefore := saves_setRoutine_of_plain (hs.plain_of_send htask) hsaves
  exact not_saves_of_isWriting hfree hbefore.2

/-- A task comes to the end of what it saves and hands over, where nobody saves
yet. -/
theorem Saving.done_of_free (hs : s.Saving) (hfree : s.isWriting = false)
    (hroutine : ∀ other, s.tasks.get? worker = some other → other = routine) :
    ∃ pieces, s.Advances worker pieces ∧ (s.run pieces).Done worker := by
  induction routine generalizing s with
  | save next ih =>
    cases htask : s.tasks.get? worker with
    | none => exact ⟨[], trivial, by simp [Done, htask]⟩
    | some other =>
      rw [hroutine other htask] at htask
      have hcopies : (s.step (.resume worker true)).tasks.get? worker =
          some (.write s.ledger next) := by
        rw [step_of_saves htask hfree, tasks_setRoutine, if_pos rfl,
          if_neg (by simp)]
      have hsaving := (course_step s (.resume worker true)).saving hs
      have hfree' := hsaving.isWriting_step ⟨next, hcopies⟩
      have hnext : ∀ other, ((s.step (.resume worker true)).step
          (.resume worker true)).tasks.get? worker = some other →
            other = next := by
        intro other hother
        rw [step_of_writes hcopies] at hother
        exact eq_of_get?_setRoutine hother
      obtain ⟨pieces, hadvances, hdone⟩ :=
        ih ((course_step _ _).saving hsaving) hfree' hnext
      exact ⟨.resume worker true :: .resume worker true :: pieces,
        ⟨.save worker true next htask, .write worker true s.ledger next hcopies,
          hadvances⟩, hdone⟩
  | send r next ih =>
    cases htask : s.tasks.get? worker with
    | none => exact ⟨[], trivial, by simp [Done, htask]⟩
    | some other =>
      rw [hroutine other htask] at htask
      have hnext : ∀ other,
          (s.step (.resume worker true)).tasks.get? worker = some other →
          other = next := by
        intro other hother
        rw [step_of_sends htask] at hother
        exact eq_of_get?_setRoutine hother
      have hfree' := hs.isWriting_of_sends hfree htask
      obtain ⟨pieces, hadvances, hdone⟩ :=
        ih ((course_step s (.resume worker true)).saving hs) hfree' hnext
      exact ⟨.resume worker true :: pieces,
        ⟨.send true r next htask, hadvances⟩, hdone⟩
  | write copy next =>
    refine ⟨[], trivial, ?_⟩
    intro other hother
    rw [hroutine other hother] at hother
    exact absurd ⟨next, hother⟩ (not_saves_of_isWriting hfree)
  | _ =>
    refine ⟨[], trivial, ?_⟩
    intro other hother
    rw [hroutine other hother]
    rfl

/-- Whatever is being saved, a task comes to the end of what it saves and hands
over. -/
theorem Saving.done (hs : s.Saving) (worker : Nat) :
    ∃ pieces, s.Advances worker pieces ∧ (s.run pieces).Done worker := by
  have hunique {s : Service} : ∃ routine, ∀ other,
      s.tasks.get? worker = some other →
      other = routine := by
    cases htask : s.tasks.get? worker with
    | none => exact ⟨.stop, nofun⟩
    | some routine =>
      exact ⟨routine, fun other hother => (Option.some.inj hother).symm⟩
  cases hwriting : s.isWriting with
  | false =>
    obtain ⟨routine, hroutine⟩ := hunique (s := s)
    exact hs.done_of_free hwriting hroutine
  | true =>
    obtain ⟨task, copy, hsaves⟩ := saves_of_isWriting hwriting
    have hfree := hs.isWriting_step hsaves
    obtain ⟨next, htask⟩ := hsaves
    obtain ⟨routine, hroutine⟩ := hunique (s := s.step (.resume task true))
    obtain ⟨pieces, hadvances, hdone⟩ :=
      ((course_step s (.resume task true)).saving hs).done_of_free
        hfree hroutine
    exact ⟨.resume task true :: pieces,
      ⟨.write task true copy next htask, hadvances⟩, hdone⟩

end Service

end Redelivery
