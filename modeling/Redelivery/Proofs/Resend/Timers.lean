import Redelivery.Resend.Scheduler
import Redelivery.Table.Lemmas

/-!
# Armed timers and what waits for them

A timer that is armed and a task that waits for its time belong together:
neither is left behind when the other goes.  A timer that nothing waits for
would keep its place for ever, and a sweep would pass its message over.
-/

namespace Redelivery.Scheduler

/-- Something waits for every armed timer, and for nothing else. -/
structure Matched (s : Scheduler) : Prop where
  waiting : ∀ id timer, s.timers.get? id = some timer →
    ∃ due, s.sleepers.get? timer.generation = some ⟨id, due⟩
  armed : ∀ generation sleeper, s.sleepers.get? generation = some sleeper →
    ∃ delay, s.timers.get? sleeper.id = some ⟨generation, delay⟩
  unused : ∀ generation, s.nextGeneration ≤ generation →
    s.sleepers.get? generation = none

variable {s : Scheduler} {id : MessageId}

/-! ## Look-ups -/

@[simp]
theorem timers_cancel (s : Scheduler) (id id' : MessageId) :
    (s.cancel id).timers.get? id' =
      if id' = id then none else s.timers.get? id' := by
  unfold cancel
  split
  next missing =>
    split
    next same => rw [same, missing]
    next => rfl
  next => exact Table.get?_erase s.timers id id'

theorem sleepers_cancel_of_get? {timer : Timer}
    (htimer : s.timers.get? id = some timer) (generation : Nat) :
    (s.cancel id).sleepers.get? generation =
      if generation = timer.generation then none
      else s.sleepers.get? generation := by
  simp [cancel, htimer]

theorem sleepers_cancel_iff {generation : Nat} {sleeper : Sleeper} :
    (s.cancel id).sleepers.get? generation = some sleeper ↔
      s.sleepers.get? generation = some sleeper ∧
        ∀ delay, s.timers.get? id ≠ some ⟨generation, delay⟩ := by
  cases htimer : s.timers.get? id with
  | none => simp [cancel, htimer]
  | some timer =>
    obtain ⟨generation', delay⟩ := timer
    rw [sleepers_cancel_of_get? htimer]
    by_cases same : generation = generation'
    · simp [same]
    · simp [same, Ne.symm same]

theorem cancel_of_get?_eq_none (hnone : s.timers.get? id = none) :
    s.cancel id = s := by
  simp [cancel, hnone]

@[simp]
theorem nextGeneration_cancel (s : Scheduler) (id : MessageId) :
    (s.cancel id).nextGeneration = s.nextGeneration := by
  unfold cancel
  split <;> rfl

@[simp]
theorem timers_arm (s : Scheduler) (now : Nat) (id id' : MessageId)
    (delay : UInt64) :
    (s.arm now id delay).timers.get? id' =
      if id' = id then some ⟨s.nextGeneration, delay⟩
      else s.timers.get? id' := by
  simp only [arm, Table.get?_insert, timers_cancel]
  split <;> rfl

theorem timers_complete_wake {generation : Nat}
    (hcurrent : s.isCurrent id generation = true) (id' : MessageId) :
    ((s.wake generation).complete id generation).timers.get? id' =
      if id' = id then none else s.timers.get? id' := by
  have hwoken : (s.wake generation).isCurrent id generation = true := hcurrent
  rw [complete, if_pos hwoken]
  simp [wake]

theorem sleepers_complete_wake {generation : Nat}
    (hcurrent : s.isCurrent id generation = true) (generation' : Nat) :
    ((s.wake generation).complete id generation).sleepers.get? generation' =
      if generation' = generation then none
      else s.sleepers.get? generation' := by
  have hwoken : (s.wake generation).isCurrent id generation = true := hcurrent
  rw [complete, if_pos hwoken]
  simp [wake]

theorem nextGeneration_complete (s : Scheduler) (id : MessageId)
    (generation : Nat) :
    (s.complete id generation).nextGeneration = s.nextGeneration := by
  unfold complete
  split <;> rfl

theorem isCurrent_iff {generation : Nat} :
    s.isCurrent id generation = true ↔
      ∃ delay, s.timers.get? id = some ⟨generation, delay⟩ := by
  unfold isCurrent
  cases htimer : s.timers.get? id with
  | none => simp
  | some timer =>
    cases timer
    simp

/-! ## Every operation keeps them together -/

theorem matched_empty : Scheduler.empty.Matched where
  waiting := by
    intro id timer htimer
    simp [empty] at htimer
  armed := by
    intro generation sleeper hsleeper
    simp [empty] at hsleeper
  unused := by
    intro generation _
    rfl

/-- The generation of an armed timer is that of no other message. -/
theorem Matched.generation_ne (hmatched : s.Matched) {id' : MessageId}
    {timer timer' : Timer} (htimer : s.timers.get? id = some timer)
    (htimer' : s.timers.get? id' = some timer') (hne : id' ≠ id) :
    timer'.generation ≠ timer.generation := by
  intro same
  obtain ⟨due, hdue⟩ := hmatched.waiting id timer htimer
  obtain ⟨due', hdue'⟩ := hmatched.waiting id' timer' htimer'
  rw [same, hdue] at hdue'
  cases hdue'
  exact hne rfl

theorem Matched.cancel (hmatched : s.Matched) (id : MessageId) :
    (s.cancel id).Matched := by
  cases htimer : s.timers.get? id with
  | none =>
    rw [cancel_of_get?_eq_none htimer]
    exact hmatched
  | some timer =>
    have hsleepers := sleepers_cancel_of_get? htimer
    refine ⟨?_, ?_, ?_⟩
    · intro id' timer' htimer'
      rw [timers_cancel] at htimer'
      split at htimer'
      next => cases htimer'
      next hne =>
        rw [hsleepers, if_neg (hmatched.generation_ne htimer htimer' hne)]
        exact hmatched.waiting id' timer' htimer'
    · intro generation sleeper hsleeper
      rw [hsleepers] at hsleeper
      split at hsleeper
      next => cases hsleeper
      next hne =>
        obtain ⟨delay, harmed⟩ := hmatched.armed generation sleeper hsleeper
        have hother : sleeper.id ≠ id := by
          intro same
          rw [same, htimer] at harmed
          cases harmed
          exact hne rfl
        exact ⟨delay, by rw [timers_cancel, if_neg hother, harmed]⟩
    · intro generation hlarge
      rw [nextGeneration_cancel] at hlarge
      rw [hsleepers]
      split
      next => rfl
      next => exact hmatched.unused generation hlarge

theorem Matched.arm (hmatched : s.Matched) (now : Nat) (id : MessageId)
    (delay : UInt64) :
    (s.arm now id delay).Matched := by
  have hcleared := hmatched.cancel id
  have hfree := hcleared.unused s.nextGeneration (by simp)
  refine ⟨?_, ?_, ?_⟩
  · intro id' timer htimer
    simp only [Scheduler.arm, Table.get?_insert] at htimer ⊢
    split at htimer
    next same =>
      cases htimer
      exact ⟨now + sleepTime delay.toNat, by simp [same]⟩
    next =>
      obtain ⟨due, hdue⟩ := hcleared.waiting id' timer htimer
      have hold : timer.generation ≠ s.nextGeneration := by
        intro same
        rw [same, hfree] at hdue
        cases hdue
      exact ⟨due, by rw [if_neg hold, hdue]⟩
  · intro generation sleeper hsleeper
    simp only [Scheduler.arm, Table.get?_insert] at hsleeper ⊢
    split at hsleeper
    next same =>
      cases hsleeper
      exact ⟨delay, by simp [same]⟩
    next =>
      obtain ⟨delay', harmed⟩ := hcleared.armed generation sleeper hsleeper
      have hother : sleeper.id ≠ id := by
        intro same
        simp [same] at harmed
      exact ⟨delay', by rw [if_neg hother, harmed]⟩
  · intro generation hlarge
    have hlarge : s.nextGeneration + 1 ≤ generation := hlarge
    simp only [Scheduler.arm, Table.get?_insert]
    rw [if_neg (by omega)]
    exact hcleared.unused generation (by simp; omega)

/-- A timer whose time has come goes together with what waited for it. -/
theorem Matched.complete_wake (hmatched : s.Matched) {generation : Nat}
    (hcurrent : s.isCurrent id generation = true) :
    ((s.wake generation).complete id generation).Matched := by
  obtain ⟨delay, htimer⟩ := isCurrent_iff.1 hcurrent
  refine ⟨?_, ?_, ?_⟩
  · intro id' timer' htimer'
    rw [timers_complete_wake hcurrent] at htimer'
    split at htimer'
    next => cases htimer'
    next hne =>
      rw [sleepers_complete_wake hcurrent,
        if_neg (hmatched.generation_ne htimer htimer' hne)]
      exact hmatched.waiting id' timer' htimer'
  · intro generation' sleeper hsleeper
    rw [sleepers_complete_wake hcurrent] at hsleeper
    split at hsleeper
    next => cases hsleeper
    next hne =>
      obtain ⟨delay', harmed⟩ := hmatched.armed generation' sleeper hsleeper
      have hother : sleeper.id ≠ id := by
        intro same
        rw [same, htimer] at harmed
        cases harmed
        exact hne rfl
      exact ⟨delay',
        by rw [timers_complete_wake hcurrent, if_neg hother, harmed]⟩
  · intro generation' hlarge
    rw [nextGeneration_complete] at hlarge
    rw [sleepers_complete_wake hcurrent]
    split
    next => rfl
    next => exact hmatched.unused generation' hlarge

/-! ## Taking every timer away -/

theorem timers_foldl_cancel (ids : List MessageId) (s : Scheduler)
    (id : MessageId) :
    (ids.foldl Scheduler.cancel s).timers.get? id =
      if id ∈ ids then none else s.timers.get? id := by
  induction ids generalizing s with
  | nil => simp
  | cons first rest ih =>
    rw [List.foldl_cons, ih, timers_cancel]
    by_cases hrest : id ∈ rest
    · simp [hrest]
    · simp [hrest]

theorem sleepers_foldl_cancel_iff {ids : List MessageId} {generation : Nat}
    {sleeper : Sleeper} :
    (ids.foldl Scheduler.cancel s).sleepers.get? generation = some sleeper ↔
      s.sleepers.get? generation = some sleeper ∧
        ∀ id ∈ ids, ∀ delay, s.timers.get? id ≠ some ⟨generation, delay⟩ := by
  induction ids generalizing s with
  | nil => simp
  | cons first rest ih =>
    rw [List.foldl_cons, ih, sleepers_cancel_iff, List.forall_mem_cons,
      and_assoc]
    refine and_congr_right fun _ => and_congr_right fun hfirst =>
      forall₂_congr fun id _ => ?_
    rw [timers_cancel]
    split
    next same =>
      rw [same]
      simpa using hfirst
    next => rfl

theorem nextGeneration_foldl_cancel (ids : List MessageId) (s : Scheduler) :
    (ids.foldl Scheduler.cancel s).nextGeneration = s.nextGeneration := by
  induction ids generalizing s with
  | nil => rfl
  | cons first rest ih => rw [List.foldl_cons, ih, nextGeneration_cancel]

@[simp]
theorem timers_cancelAll (s : Scheduler) (id : MessageId) :
    s.cancelAll.timers.get? id = none := by
  rw [cancelAll, timers_foldl_cancel]
  split
  next => rfl
  next hmissing =>
    rw [Table.mem_keys_iff] at hmissing
    simpa using hmissing

theorem sleepers_cancelAll_iff {generation : Nat} {sleeper : Sleeper} :
    s.cancelAll.sleepers.get? generation = some sleeper ↔
      s.sleepers.get? generation = some sleeper ∧
        ∀ id delay, s.timers.get? id ≠ some ⟨generation, delay⟩ := by
  rw [cancelAll, sleepers_foldl_cancel_iff]
  refine and_congr_right fun _ => forall_congr' fun id =>
    ⟨fun hnone delay htimer => ?_,
    fun hnone _ => hnone⟩
  exact hnone ((Table.mem_keys_iff _ id).2 (by simp [htimer])) delay htimer

theorem Matched.cancelAll (hmatched : s.Matched) : s.cancelAll.Matched :=
  List.foldlRecOn s.timers.keys Scheduler.cancel hmatched fun _ hbefore id _ =>
    hbefore.cancel id

end Redelivery.Scheduler
