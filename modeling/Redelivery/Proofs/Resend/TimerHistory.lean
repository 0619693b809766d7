import Mathlib.Data.List.Basic
import Mathlib.Data.List.Induction
import Redelivery.Proofs.Resend.Timers
import Redelivery.Resend.Clockwork

/-!
# Timers by their history

The calls made so far, each with what came back from it, say all that there is
to know about the timers: which of them are armed, what the next call answers,
and when what waits for a time may act.  Nothing here looks into the scheduler;
that it agrees with its history is an invariant, with one case for each call.
-/

namespace Redelivery

namespace Scheduler

variable {s : Scheduler} {ids : List MessageId}

theorem cancelCounting_snd (ids : List MessageId) (s : Scheduler) :
    (s.cancelCounting ids).2 = ids.foldl cancel s := by
  induction ids generalizing s with
  | nil => rfl
  | cons first rest ih => exact ih (s.cancel first)

theorem cancelCounting_fst (hnodup : ids.Nodup)
    (harmed : ∀ id ∈ ids, (s.timers.get? id).isSome = true) :
    (s.cancelCounting ids).1 = ids.length := by
  induction ids generalizing s with
  | nil => rfl
  | cons first rest ih =>
    obtain ⟨hfirst, hrest⟩ := List.nodup_cons.1 hnodup
    have hlater :
        ∀ id ∈ rest, ((s.cancel first).timers.get? id).isSome = true := by
      intro id hid
      have hne : id ≠ first := by
        rintro rfl
        exact hfirst hid
      rw [timers_cancel, if_neg hne]
      exact harmed id (List.mem_cons_of_mem _ hid)
    have hthere : s.isArmed first = true := harmed first (by simp)
    simp [cancelCounting, hthere, ih hrest hlater]

theorem cancelCounting_keys (s : Scheduler) :
    s.cancelCounting s.timers.keys = (s.timers.keys.length, s.cancelAll) :=
  Prod.ext (cancelCounting_fst s.timers.nodup_keys fun id =>
    (Table.mem_keys_iff _ id).1) (cancelCounting_snd _ s)

theorem foldl_firings_snd (ready : List (Nat × Sleeper))
    (acc : List Firing × Scheduler) :
    (ready.foldl (fun acc e =>
      (acc.1 ++ [(acc.2.fireOne e.1 e.2).1], (acc.2.fireOne e.1 e.2).2))
        acc).2 =
      ready.foldl (fun s e => (s.fireOne e.1 e.2).2) acc.2 := by
  induction ready generalizing acc with
  | nil => rfl
  | cons first rest ih => rw [List.foldl_cons, ih, List.foldl_cons]

end Scheduler

namespace Clockwork

open Scheduler (Call Reply)

/-- A call, and what came back from it. -/
abbrev Entry := Call × Reply

/-! ## What a history says -/

/-- The call takes the timer of a message away, or puts another one in its
place. -/
def Withdraws (id : MessageId) : Entry → Prop
  | (.arm id' _, _) | (.cancel id', _) => id' = id
  | (.cancelAll, _) => True
  | _ => False

/-- The call claims the place of a timer, and gets it. -/
def Claims (generation : Nat) : Entry → Prop
  | (.complete _ generation', .answer true) => generation' = generation
  | _ => False

/-- A message was given a timer with a generation, and the timer is still in its
place: the message was given no other since, its timer was not cancelled, and
nobody claimed its place. -/
def Stands (h : List Entry) (id : MessageId) (generation : Nat)
    (delay : UInt64) : Prop :=
  ∃ before later,
    h = before ++ (.arm id delay, .generation generation) :: later ∧
    ∀ entry ∈ later, ¬Withdraws id entry ∧ ¬Claims generation entry

/-- A timer was cancelled, or another one took its place, while it was armed. -/
def Withdrawn (h : List Entry) (generation : Nat) : Prop :=
  ∃ before entry later, h = before ++ entry :: later ∧
    ∃ id delay, Withdraws id entry ∧ Stands before id generation delay

def arms (h : List Entry) : Nat :=
  h.countP fun entry => entry.1 matches .arm ..

def elapsed : List Entry → Nat
  | [] => 0
  | (.pass millis, _) :: rest => millis + elapsed rest
  | _ :: rest => elapsed rest

def acting (generation : Nat) : Entry := (.wake generation, .answer true)

/-- A message was given a timer with a generation whose time comes at `due`. -/
def ArmedFor (h : List Entry) (generation : Nat) (id : MessageId)
    (due : Nat) : Prop :=
  ∃ before delay later,
    h = before ++ (.arm id delay, .generation generation) :: later ∧
    due = elapsed before + sleepTime delay.toNat

/-- A timer whose time comes at `due` was armed, was not withdrawn, and did not
act. -/
structure Waits (h : List Entry) (generation : Nat) (id : MessageId)
    (due : Nat) : Prop where
  armed : ArmedFor h generation id due
  kept : ¬Withdrawn h generation
  still : acting generation ∉ h

/-! ## One more entry -/

section Concat

variable {h : List Entry} {x : Entry} {id : MessageId} {generation : Nat}
  {delay : UInt64}

/-- A list with one more element at its end is split at that element, or before
it. -/
theorem concat_eq_split_iff {α : Type} {l before later : List α} {x a : α} :
    l ++ [x] = before ++ a :: later ↔
      (l = before ∧ x = a ∧ later = []) ∨
        ∃ rest, later = rest ++ [x] ∧ l = before ++ a :: rest := by
  rcases List.eq_nil_or_concat' later with rfl | ⟨rest, y, rfl⟩
  · simp [List.append_singleton_inj]
  · have hassoc :
        before ++ a :: (rest ++ [y]) = (before ++ a :: rest) ++ [y] := by simp
    rw [hassoc, List.append_singleton_inj]
    constructor
    · rintro ⟨rfl, rfl⟩
      exact .inr ⟨rest, rfl, rfl⟩
    · rintro (⟨-, -, hnil⟩ | ⟨rest', hrest, rfl⟩)
      · simp at hnil
      · obtain ⟨rfl, rfl⟩ := List.append_singleton_inj.1 hrest
        exact ⟨rfl, rfl⟩

theorem arms_concat (h : List Entry) (x : Entry) :
    arms (h ++ [x]) = arms h + if x.1 matches .arm .. then 1 else 0 := by
  simp [arms, List.countP_append, List.countP_cons]

theorem elapsed_concat (h : List Entry) (x : Entry) :
    elapsed (h ++ [x]) = elapsed h + elapsed [x] := by
  induction h with
  | nil => simp [elapsed]
  | cons y rest ih =>
    obtain ⟨asked, reply⟩ := y
    cases asked <;> simp [elapsed, ih, Nat.add_assoc]

theorem stands_concat :
    Stands (h ++ [x]) id generation delay ↔
      (Stands h id generation delay ∧ ¬Withdraws id x ∧ ¬Claims generation x) ∨
        x = (.arm id delay, .generation generation) := by
  unfold Stands
  simp only [concat_eq_split_iff]
  constructor
  · rintro ⟨before, later, ⟨rfl, rfl, rfl⟩ | ⟨rest, rfl, rfl⟩, hlater⟩
    · exact .inr rfl
    · refine .inl ⟨⟨before, rest, rfl, fun entry hentry => ?_⟩, ?_⟩
      · exact hlater entry (by simp [hentry])
      · exact hlater x (by simp)
  · rintro (⟨⟨before, rest, rfl, hrest⟩, hx⟩ | rfl)
    · refine ⟨before, rest ++ [x], .inr ⟨rest, rfl, rfl⟩,
        fun entry hentry => ?_⟩
      rcases List.mem_append.1 hentry with hmem | hmem
      · exact hrest entry hmem
      · rw [List.mem_singleton.1 hmem]
        exact hx
    · exact ⟨h, [], .inl ⟨rfl, rfl, rfl⟩, by simp⟩

theorem withdrawn_concat :
    Withdrawn (h ++ [x]) generation ↔
      Withdrawn h generation ∨
        ∃ id delay, Withdraws id x ∧ Stands h id generation delay := by
  unfold Withdrawn
  simp only [concat_eq_split_iff]
  constructor
  · rintro ⟨before, entry, later, ⟨rfl, rfl, rfl⟩ | ⟨rest, rfl, rfl⟩,
      hwithdrawn⟩
    · exact .inr hwithdrawn
    · exact .inl ⟨before, entry, rest, rfl, hwithdrawn⟩
  · rintro (⟨before, entry, rest, rfl, hwithdrawn⟩ | hwithdrawn)
    · exact ⟨before, entry, rest ++ [x], .inr ⟨rest, rfl, rfl⟩, hwithdrawn⟩
    · exact ⟨h, x, [], .inl ⟨rfl, rfl, rfl⟩, hwithdrawn⟩

theorem armedFor_concat {due : Nat} :
    ArmedFor (h ++ [x]) generation id due ↔
      ArmedFor h generation id due ∨
        ∃ delay, x = (.arm id delay, .generation generation) ∧
          due = elapsed h + sleepTime delay.toNat := by
  unfold ArmedFor
  simp only [concat_eq_split_iff]
  constructor
  · rintro ⟨before, delay, later, ⟨rfl, rfl, rfl⟩ | ⟨rest, rfl, rfl⟩, hdue⟩
    · exact .inr ⟨delay, rfl, hdue⟩
    · exact .inl ⟨before, delay, rest, rfl, hdue⟩
  · rintro (⟨before, delay, rest, rfl, hdue⟩ | ⟨delay, rfl, hdue⟩)
    · exact ⟨before, delay, rest ++ [x], .inr ⟨rest, rfl, rfl⟩, hdue⟩
    · exact ⟨h, delay, [], .inl ⟨rfl, rfl, rfl⟩, hdue⟩

/-- Who waited goes on, unless the next entry withdraws its timer, or is its
own. -/
theorem waits_concat {due : Nat}
    (hother : ∀ id delay, x ≠ (.arm id delay, .generation generation)) :
    Waits (h ++ [x]) generation id due ↔
      Waits h generation id due ∧
        (∀ id', Withdraws id' x → ∀ delay, ¬Stands h id' generation delay) ∧
        x ≠ acting generation := by
  have harmed : ArmedFor (h ++ [x]) generation id due ↔
      ArmedFor h generation id due := by
    rw [armedFor_concat, or_iff_left]
    rintro ⟨delay, rfl, -⟩
    exact hother id delay rfl
  constructor
  · rintro ⟨hfor, hkept, hstill⟩
    rw [withdrawn_concat, not_or] at hkept
    rw [List.mem_append, not_or, List.mem_singleton] at hstill
    refine ⟨⟨harmed.1 hfor, hkept.1, hstill.1⟩, fun id' hx delay hstands => ?_,
      Ne.symm hstill.2⟩
    exact hkept.2 ⟨id', delay, hx, hstands⟩
  · rintro ⟨⟨hfor, hkept, hstill⟩, hstands, hx⟩
    refine ⟨harmed.2 hfor, ?_, ?_⟩
    · rw [withdrawn_concat]
      rintro (hbefore | ⟨id', delay, hwithdraws, hstood⟩)
      · exact hkept hbefore
      · exact hstands id' hwithdraws delay hstood
    · rw [List.mem_append, not_or, List.mem_singleton]
      exact ⟨hstill, Ne.symm hx⟩

end Concat

/-! ## Generations are given out once -/

/-- Every timer got as its generation how many were armed before it, and none
acted that was not armed. -/
structure Numbered (h : List Entry) : Prop where
  given : ∀ before id delay reply later,
    h = before ++ (.arm id delay, reply) :: later →
    reply = .generation (arms before)
  acted : ∀ generation, acting generation ∈ h → generation < arms h

section Numbered

variable {h : List Entry} {x : Entry} {id : MessageId} {generation : Nat}
  {delay : UInt64}

theorem arms_split (before later : List Entry) (id : MessageId) (delay : UInt64)
    (reply : Reply) :
    arms (before ++ (.arm id delay, reply) :: later) =
      arms before + 1 + arms later := by
  simp [arms, List.countP_append]
  omega

theorem Numbered.generation_eq (hnumbered : Numbered h)
    {before later : List Entry}
    (hh : h = before ++ (.arm id delay, .generation generation) :: later) :
    generation = arms before := by
  simpa using hnumbered.given before id delay _ later hh

theorem Numbered.lt_arms (hnumbered : Numbered h)
    (hmem : (.arm id delay, .generation generation) ∈ h) :
    generation < arms h := by
  obtain ⟨before, later, hh⟩ := List.append_of_mem hmem
  have hgeneration := hnumbered.generation_eq hh
  have harms := arms_split before later id delay (.generation generation)
  rw [← hh] at harms
  omega

/-- Two timers with one generation are the same. -/
theorem Numbered.eq_of_mem (hnumbered : Numbered h) {id' : MessageId}
    {delay' : UInt64} (hmem : (.arm id delay, .generation generation) ∈ h)
    (hmem' : (.arm id' delay', .generation generation) ∈ h) : id = id' := by
  obtain ⟨before, later, hh⟩ := List.append_of_mem hmem
  obtain ⟨before', later', hh'⟩ := List.append_of_mem hmem'
  have hsame : arms before = arms before' :=
    (hnumbered.generation_eq hh).symm.trans (hnumbered.generation_eq hh')
  rcases List.append_eq_append_iff.1 (hh.symm.trans hh') with
    ⟨middle, hbefore, hmiddle⟩ | ⟨middle, hbefore, hmiddle⟩
  all_goals
    cases middle with
    | nil =>
      simp at hmiddle
      simp [hmiddle]
    | cons first rest =>
      exfalso
      obtain ⟨rfl, -⟩ := List.cons.inj hmiddle
      rw [hbefore, arms_split] at hsame
      omega

theorem Stands.mem (hstands : Stands h id generation delay) :
    (.arm id delay, .generation generation) ∈ h := by
  obtain ⟨before, later, rfl, -⟩ := hstands
  simp

theorem ArmedFor.exists_mem {due : Nat}
    (harmed : ArmedFor h generation id due) :
    ∃ delay, (.arm id delay, .generation generation) ∈ h := by
  obtain ⟨before, delay, later, rfl, -⟩ := harmed
  exact ⟨delay, by simp⟩

theorem Withdrawn.exists_mem (hwithdrawn : Withdrawn h generation) :
    ∃ id delay, (.arm id delay, .generation generation) ∈ h := by
  obtain ⟨before, entry, later, rfl, id, delay, -, hstands⟩ := hwithdrawn
  exact ⟨id, delay, List.mem_append_left _ hstands.mem⟩

theorem Numbered.not_stands (hnumbered : Numbered h) :
    ¬Stands h id (arms h) delay :=
  fun hstands => Nat.lt_irrefl _ (hnumbered.lt_arms hstands.mem)

/-- What waits for the time of a timer that was just armed waits for that
time. -/
theorem Numbered.waits_arm (hnumbered : Numbered h) {id' : MessageId}
    {due : Nat} :
    Waits (h ++ [(.arm id delay, .generation (arms h))]) (arms h) id' due ↔
      id = id' ∧ elapsed h + sleepTime delay.toNat = due := by
  constructor
  · rintro ⟨hfor, -, -⟩
    rcases armedFor_concat.1 hfor with hbefore | ⟨delay', hnew, hdue⟩
    · obtain ⟨delay', hmem⟩ := hbefore.exists_mem
      exact absurd (hnumbered.lt_arms hmem) (Nat.lt_irrefl _)
    · cases hnew
      exact ⟨rfl, hdue.symm⟩
  · rintro ⟨rfl, rfl⟩
    refine ⟨armedFor_concat.2 (.inr ⟨delay, rfl, rfl⟩), ?_, ?_⟩
    · rw [withdrawn_concat]
      rintro (hbefore | ⟨id', delay', -, hstands⟩)
      · obtain ⟨id', delay', hmem⟩ := hbefore.exists_mem
        exact Nat.lt_irrefl _ (hnumbered.lt_arms hmem)
      · exact hnumbered.not_stands hstands
    · intro hmem
      have hbefore : acting (arms h) ∈ h := by simpa [acting] using hmem
      exact Nat.lt_irrefl _ (hnumbered.acted _ hbefore)

theorem numbered_nil : Numbered [] where
  given := by simp
  acted := by simp

theorem Numbered.arm (hnumbered : Numbered h) (id : MessageId)
    (delay : UInt64) :
    Numbered (h ++ [(.arm id delay, .generation (arms h))]) where
  given := by
    intro before id' delay' reply later hh
    rcases concat_eq_split_iff.1 hh with ⟨rfl, hx, -⟩ | ⟨rest, -, hh⟩
    · cases hx
      rfl
    · exact hnumbered.given before id' delay' reply rest hh
  acted := by
    intro generation hmem
    have hbefore : acting generation ∈ h := by simpa [acting] using hmem
    have hlt := hnumbered.acted generation hbefore
    rw [arms_concat]
    omega

/-- Entries other than those of new timers. -/
theorem Numbered.concat (hnumbered : Numbered h)
    (hother : ∀ id delay reply, x ≠ (.arm id delay, reply))
    (hacting : ∀ generation, x = acting generation → generation < arms h) :
    Numbered (h ++ [x]) where
  given := by
    intro before id delay reply later hh
    rcases concat_eq_split_iff.1 hh with ⟨-, rfl, -⟩ | ⟨rest, -, hh⟩
    · exact absurd rfl (hother id delay reply)
    · exact hnumbered.given before id delay reply rest hh
  acted := by
    intro generation hmem
    rw [arms_concat]
    rcases List.mem_append.1 hmem with hbefore | hnew
    · exact Nat.lt_add_right _ (hnumbered.acted generation hbefore)
    · exact Nat.lt_add_right _
        (hacting generation (List.mem_singleton.1 hnew).symm)

end Numbered

/-! ## The scheduler agrees with its history -/

/-- What the scheduler holds is what the history says. -/
structure Told (h : List Entry) (c : Clockwork) : Prop where
  numbered : Numbered h
  clock : c.clock = elapsed h
  generations : c.scheduler.nextGeneration = arms h
  timers : ∀ id generation delay,
    c.scheduler.timers.get? id = some ⟨generation, delay⟩ ↔
      Stands h id generation delay
  sleepers : ∀ generation id due,
    c.scheduler.sleepers.get? generation = some ⟨id, due⟩ ↔
      Waits h generation id due

theorem told_start : Told [] start where
  numbered := numbered_nil
  clock := rfl
  generations := rfl
  timers := by
    intro id generation delay
    simp [start, Scheduler.empty, Stands]
  sleepers := by
    intro generation id due
    constructor
    · intro hsleeper
      simp [start, Scheduler.empty] at hsleeper
    · rintro ⟨⟨before, delay, later, hh, -⟩, -, -⟩
      simp at hh

section Step

variable {h : List Entry} {c : Clockwork}

theorem Told.arm (htold : Told h c) (id : MessageId) (delay : UInt64) :
    Told (h ++ [(.arm id delay, .generation (arms h))])
      (c.call (.arm id delay)).2 where
  numbered := htold.numbered.arm id delay
  clock := by simp [call, htold.clock, elapsed_concat, elapsed]
  generations := by simp [call, Scheduler.arm, htold.generations, arms_concat]
  timers := by
    intro id' generation delay'
    rw [stands_concat, ← htold.timers]
    simp only [call, Scheduler.timers_arm, htold.generations]
    by_cases same : id' = id
    · simp [same, Withdraws, eq_comm, and_comm]
    · simp [same, Ne.symm same, Withdraws, Claims]
  sleepers := by
    intro generation id' due
    simp only [call, Scheduler.arm, Table.get?_insert, htold.generations,
      htold.clock]
    split
    next same => simp [same, htold.numbered.waits_arm]
    next hold =>
      rw [waits_concat (by simp [Ne.symm hold]), Scheduler.sleepers_cancel_iff,
        htold.sleepers]
      simp [Withdraws, acting, htold.timers]

theorem Told.cancel (htold : Told h c) (id : MessageId) (reply : Reply) :
    Told (h ++ [(.cancel id, reply)]) (c.call (.cancel id)).2 where
  numbered := htold.numbered.concat (by simp) (by simp [acting])
  clock := by simp [call, htold.clock, elapsed_concat, elapsed]
  generations := by simp [call, htold.generations, arms_concat]
  timers := by
    intro id' generation delay
    rw [stands_concat, ← htold.timers]
    by_cases same : id' = id
    · simp [call, same, Withdraws]
    · simp [call, same, Ne.symm same, Withdraws, Claims]
  sleepers := by
    intro generation id' due
    rw [waits_concat (by simp), ← htold.sleepers]
    simp [call, Withdraws, acting, Scheduler.sleepers_cancel_iff, htold.timers]

theorem Told.cancelAll (htold : Told h c) (reply : Reply) :
    Told (h ++ [(.cancelAll, reply)])
      { c with scheduler := c.scheduler.cancelAll } where
  numbered := htold.numbered.concat (by simp) (by simp [acting])
  clock := by simp [htold.clock, elapsed_concat, elapsed]
  generations := by
    simp [Scheduler.cancelAll, Scheduler.nextGeneration_foldl_cancel,
      htold.generations, arms_concat]
  timers := by
    intro id generation delay
    rw [stands_concat]
    simp [Withdraws]
  sleepers := by
    intro generation id due
    rw [waits_concat (by simp), ← htold.sleepers]
    simp [Withdraws, acting, Scheduler.sleepers_cancelAll_iff, htold.timers]

theorem Told.pass (htold : Told h c) (millis : Nat) (reply : Reply) :
    Told (h ++ [(.pass millis, reply)]) (c.call (.pass millis)).2 where
  numbered := htold.numbered.concat (by simp) (by simp [acting])
  clock := by simp [call, htold.clock, elapsed_concat, elapsed]
  generations := by simp [call, htold.generations, arms_concat]
  timers := by
    intro id generation delay
    rw [stands_concat, ← htold.timers]
    simp [call, Withdraws, Claims]
  sleepers := by
    intro generation id due
    rw [waits_concat (by simp), ← htold.sleepers]
    simp [call, Withdraws, acting]

theorem Told.isCurrent_iff (htold : Told h c) {id : MessageId}
    {generation : Nat} :
    c.scheduler.isCurrent id generation = true ↔
      ∃ delay, Stands h id generation delay := by
  simp [Scheduler.isCurrent_iff, htold.timers]

theorem Told.complete (htold : Told h c) {id : MessageId} {generation : Nat}
    (hcurrent : c.scheduler.isCurrent id generation = true) :
    Told (h ++ [(.complete id generation, .answer true)])
      (c.call (.complete id generation)).2 where
  numbered := htold.numbered.concat (by simp) (by simp [acting])
  clock := by simp [call, htold.clock, elapsed_concat, elapsed]
  generations := by
    simp [call, Scheduler.nextGeneration_complete, htold.generations,
      arms_concat]
  timers := by
    obtain ⟨delay, hstands⟩ := htold.isCurrent_iff.1 hcurrent
    intro id' generation' delay'
    rw [stands_concat, ← htold.timers]
    simp only [call, Scheduler.complete, if_pos hcurrent, Table.get?_erase]
    by_cases same : id' = id
    · have htimer := (htold.timers id generation delay).2 hstands
      simp [same, htimer, Withdraws, Claims]
      rintro rfl -
      rfl
    · have hother : c.scheduler.timers.get? id' = some ⟨generation', delay'⟩ →
          generation ≠ generation' := by
        rintro htimer rfl
        have hstands' := (htold.timers id' generation delay').1 htimer
        exact same (htold.numbered.eq_of_mem hstands'.mem hstands.mem)
      simpa [same, Withdraws, Claims] using hother
  sleepers := by
    intro generation' id' due
    rw [waits_concat (by simp), ← htold.sleepers]
    simp [call, Scheduler.complete, hcurrent, Withdraws, acting]

theorem Told.wake (htold : Told h c) {generation : Nat}
    (hdue : c.scheduler.isDue c.clock generation = true) :
    Told (h ++ [acting generation])
      { c with scheduler := c.scheduler.wake generation } where
  numbered := by
    refine htold.numbered.concat (by simp [acting]) fun generation' hsame => ?_
    obtain rfl : generation = generation' := by simpa [acting] using hsame
    obtain ⟨⟨id, due⟩, hsleeper, -⟩ := (Option.any_eq_true _ _).1 hdue
    obtain ⟨delay, hmem⟩ :=
      ((htold.sleepers generation id due).1 hsleeper).armed.exists_mem
    exact htold.numbered.lt_arms hmem
  clock := by simp [htold.clock, elapsed_concat, elapsed, acting]
  generations := by
    simp [Scheduler.wake, htold.generations, arms_concat, acting]
  timers := by
    intro id generation' delay
    rw [stands_concat, ← htold.timers]
    simp [Scheduler.wake, Withdraws, Claims, acting]
  sleepers := by
    intro generation' id due
    rw [waits_concat (by simp [acting]), ← htold.sleepers]
    by_cases same : generation' = generation
    · simp [Scheduler.wake, same]
    · simp [Scheduler.wake, same, Ne.symm same, Withdraws, acting]

/-- An entry that says nothing about any timer leaves everything as it is. -/
theorem Told.refused (htold : Told h c) {x : Entry} (harms : arms [x] = 0)
    (helapsed : elapsed [x] = 0) (hwithdraws : ∀ id, ¬Withdraws id x)
    (hclaims : ∀ generation, ¬Claims generation x)
    (hacting : ∀ generation, x ≠ acting generation) :
    Told (h ++ [x]) c := by
  have hother : ∀ id delay reply, x ≠ (.arm id delay, reply) := by
    rintro id delay reply rfl
    simp [arms] at harms
  refine ⟨htold.numbered.concat hother fun generation hx =>
    absurd hx (hacting generation), ?_, ?_, ?_, ?_⟩
  · rw [elapsed_concat, helapsed, htold.clock, Nat.add_zero]
  · rw [arms, List.countP_append]
    exact htold.generations.trans (by simpa [arms] using harms)
  · intro id generation delay
    rw [stands_concat, ← htold.timers]
    simp [hwithdraws, hclaims, hother]
  · intro generation id due
    rw [waits_concat fun id delay => hother id delay _, ← htold.sleepers]
    simp [hwithdraws, hacting]

theorem Told.call (htold : Told h c) (asked : Call) :
    Told (h ++ [(asked, (c.call asked).1)]) (c.call asked).2 := by
  cases asked with
  | arm id delay =>
    have hstep := htold.arm id delay
    rwa [← htold.generations] at hstep
  | cancel id => exact htold.cancel id _
  | cancelAll =>
    simp only [Clockwork.call, Scheduler.cancelCounting_keys]
    exact htold.cancelAll _
  | complete id generation =>
    cases hcurrent : c.scheduler.isCurrent id generation with
    | true => simpa [Clockwork.call, hcurrent] using htold.complete hcurrent
    | false =>
      simp only [Clockwork.call, Scheduler.complete, hcurrent]
      exact htold.refused rfl rfl (by simp [Withdraws]) (by simp [Claims])
        (by simp [acting])
  | pass millis => exact htold.pass millis _
  | wake generation =>
    cases hdue : c.scheduler.isDue c.clock generation with
    | true => simpa [Clockwork.call, hdue, acting] using htold.wake hdue
    | false =>
      simp only [Clockwork.call, hdue]
      exact htold.refused rfl rfl (by simp [Withdraws]) (by simp [Claims])
        (by simp [acting])

end Step

theorem run_concat (c : Clockwork) (calls : List Call) (asked : Call) :
    c.run (calls ++ [asked]) = ((c.run calls).call asked).2 := by
  simp [run]

theorem history_concat (c : Clockwork) (calls : List Call) (asked : Call) :
    c.history (calls ++ [asked]) =
      c.history calls ++ [(asked, ((c.run calls).call asked).1)] := by
  induction calls generalizing c with
  | nil => rfl
  | cons first rest ih => simp [history, run, ih]

/-- Those whose time has come act and claim their places one after the other. -/
theorem run_due {ready : List (Nat × Sleeper)}
    (hnodup : (ready.map Prod.fst).Nodup) {c : Clockwork}
    (hready : ∀ e ∈ ready, c.scheduler.sleepers.get? e.1 = some e.2 ∧
      e.2.due ≤ c.clock) :
    c.run (ready.flatMap fun e => [.wake e.1, .complete e.2.id e.1]) =
      { c with
        scheduler :=
          ready.foldl (fun s e => (s.fireOne e.1 e.2).2) c.scheduler } := by
  induction ready generalizing c with
  | nil => rfl
  | cons first rest ih =>
    obtain ⟨hfirst, hrest⟩ := List.nodup_cons.1 hnodup
    obtain ⟨hsleeper, hdue⟩ := hready first (by simp)
    have hwake : c.scheduler.isDue c.clock first.1 = true := by
      simp [Scheduler.isDue, hsleeper, hdue]
    have hothers : ∀ e ∈ rest,
        (c.scheduler.fireOne first.1 first.2).2.sleepers.get? e.1 = some e.2 ∧
          e.2.due ≤ c.clock := by
      intro e he
      have hne : e.1 ≠ first.1 := by
        intro same
        exact hfirst (same ▸ List.mem_map_of_mem he)
      have hsleepers : (c.scheduler.fireOne first.1 first.2).2.sleepers =
          (c.scheduler.wake first.1).sleepers := by
        simp only [Scheduler.fireOne, Scheduler.complete]
        split <;> rfl
      rw [hsleepers, Scheduler.wake, Table.get?_erase, if_neg hne]
      exact hready e (List.mem_cons_of_mem _ he)
    have htail := ih hrest
      (c := { c with scheduler := (c.scheduler.fireOne first.1 first.2).2 })
        hothers
    rw [List.foldl_cons, ← htail]
    simp [run, Clockwork.call, hwake, Scheduler.fireOne]

/-- Firing is a run of calls like any other. -/
theorem run_dueCalls (c : Clockwork) :
    c.run c.dueCalls =
      { c with scheduler := (c.scheduler.fireDue c.clock).2 } := by
  have hsorted := List.mergeSort_perm
    (c.scheduler.sleepers.toList.filter fun e => e.2.due ≤ c.clock) fun a b =>
      a.2.due ≤ b.2.due
  have hnodup := (hsorted.map Prod.fst).nodup_iff.2
    (c.scheduler.sleepers.nodup_keys.sublist (List.filter_sublist.map Prod.fst))
  rw [dueCalls, run_due hnodup]
  · simp only [Scheduler.fireDue, Scheduler.foldl_firings_snd]
  · intro e he
    have hmem := List.mem_filter.1 (hsorted.mem_iff.1 he)
    exact ⟨(Table.mem_toList_iff _ e.1 e.2).1 hmem.1, by simpa using hmem.2⟩

theorem told_run (calls : List Call) :
    Told (start.history calls) (start.run calls) := by
  induction calls using List.reverseRecOn with
  | nil => exact told_start
  | append_singleton calls asked ih =>
    rw [history_concat, run_concat]
    exact ih.call asked

/-- Every entry of a history was answered by what there was after the entries
before it. -/
theorem history_split {c : Clockwork} {calls : List Call}
    {before later : List Entry} {x : Entry}
    (hsplit : c.history calls = before ++ x :: later) :
    ∃ earlier, c.history earlier = before ∧
      x.2 = ((c.run earlier).call x.1).1 := by
  induction before generalizing c calls with
  | nil =>
    cases calls with
    | nil => cases hsplit
    | cons asked rest =>
      obtain ⟨rfl, -⟩ := List.cons.inj hsplit
      exact ⟨[], rfl, rfl⟩
  | cons first before ih =>
    cases calls with
    | nil => cases hsplit
    | cons asked rest =>
      obtain ⟨rfl, hrest⟩ := List.cons.inj hsplit
      obtain ⟨earlier, rfl, hx⟩ := ih hrest
      exact ⟨asked :: earlier, rfl, hx⟩

/-! ## What is answered -/

/-- What is told and done about the timers is what their history calls for. -/
structure Faithful (h : List Entry) (c : Clockwork) : Prop where
  /-- The generation of a new timer is how many there were before it, which none
  of them has. -/
  arm : ∀ id delay, (c.call (.arm id delay)).1 = .generation (arms h)
  new : ∀ id delay, (.arm id delay, .generation (arms h)) ∉ h
  single : ∀ id generation delay generation' delay',
    Stands h id generation delay →
    Stands h id generation' delay' → generation = generation' ∧ delay = delay'
  armedDelay : ∀ id delay, c.scheduler.armedDelay? id = some delay ↔
    ∃ generation, Stands h id generation delay
  complete : ∀ id generation,
    (c.call (.complete id generation)).1 = .answer true ↔
    ∃ delay, Stands h id generation delay
  /-- A claim for another generation than that of the armed timer changes
  nothing. -/
  stale : ∀ id generation, (∀ delay, ¬Stands h id generation delay) →
    c.call (.complete id generation) = (.answer false, c)
  cancel : ∀ id, (c.call (.cancel id)).1 = .answer true ↔
    ∃ generation delay, Stands h id generation delay
  missing : ∀ id, (∀ generation delay, ¬Stands h id generation delay) →
    c.call (.cancel id) = (.answer false, c)
  /-- Cancelling all counts the messages that have an armed timer, and leaves
  none. -/
  cancelAll : ∃ ids : List MessageId, ids.Nodup ∧
    (∀ id, id ∈ ids ↔ ∃ generation delay, Stands h id generation delay) ∧
    (c.call .cancelAll).1 = .count ids.length
  cleared : ∀ id, (c.call .cancelAll).2.scheduler.isArmed id = false
  /-- A timer acts once its time has come, unless it has acted or was
  withdrawn. -/
  acts : ∀ generation, (c.call (.wake generation)).1 = .answer true ↔
    ∃ id due, Waits h generation id due ∧ due ≤ elapsed h
  /-- It has acted at no other time. -/
  acted : ∀ generation before later, h = before ++ acting generation :: later →
    ∃ id due, Waits before generation id due ∧ due ≤ elapsed before

section Faithful

variable {h : List Entry} {c : Clockwork} {id : MessageId} {generation : Nat}

theorem Told.isArmed_iff (htold : Told h c) :
    c.scheduler.isArmed id = true ↔
      ∃ generation delay, Stands h id generation delay := by
  rw [Scheduler.isArmed, Table.contains_eq, Option.isSome_iff_exists]
  constructor
  · rintro ⟨⟨generation, delay⟩, htimer⟩
    exact ⟨generation, delay, (htold.timers id generation delay).1 htimer⟩
  · rintro ⟨generation, delay, hstands⟩
    exact ⟨⟨generation, delay⟩, (htold.timers id generation delay).2 hstands⟩

theorem Told.armedDelay_iff (htold : Told h c) {delay : UInt64} :
    c.scheduler.armedDelay? id = some delay ↔
      ∃ generation, Stands h id generation delay := by
  simp only [Scheduler.armedDelay?, Option.map_eq_some_iff, ← htold.timers]
  constructor
  · rintro ⟨timer, htimer, rfl⟩
    exact ⟨timer.generation, htimer⟩
  · rintro ⟨generation, htimer⟩
    exact ⟨⟨generation, delay⟩, htimer, rfl⟩

theorem Told.single (htold : Told h c) {delay delay' : UInt64}
    {generation' : Nat} (hstands : Stands h id generation delay)
    (hstands' : Stands h id generation' delay') :
    generation = generation' ∧ delay = delay' := by
  have htimer := (htold.timers id generation delay).2 hstands
  rw [(htold.timers id generation' delay').2 hstands'] at htimer
  cases htimer
  exact ⟨rfl, rfl⟩

theorem Told.complete_stale (htold : Told h c)
    (hnone : ∀ delay, ¬Stands h id generation delay) :
    c.call (.complete id generation) = (.answer false, c) := by
  have hcurrent : ¬c.scheduler.isCurrent id generation = true := by
    rw [htold.isCurrent_iff]
    exact not_exists.2 hnone
  simp [Clockwork.call, Scheduler.complete, hcurrent]

theorem Told.cancel_missing (htold : Told h c)
    (hnone : ∀ generation delay, ¬Stands h id generation delay) :
    c.call (.cancel id) = (.answer false, c) := by
  have harmed : ¬c.scheduler.isArmed id = true := by
    rw [htold.isArmed_iff]
    exact fun ⟨generation, delay, hstands⟩ => hnone generation delay hstands
  have htimer : c.scheduler.timers.get? id = none := by
    simpa [Scheduler.isArmed, Table.contains_eq] using harmed
  simp [Clockwork.call, harmed, Scheduler.cancel_of_get?_eq_none htimer]

theorem Told.cancelAll_count (htold : Told h c) :
    ∃ ids : List MessageId, ids.Nodup ∧
      (∀ id, id ∈ ids ↔ ∃ generation delay, Stands h id generation delay) ∧
      (c.call .cancelAll).1 = .count ids.length := by
  refine ⟨c.scheduler.timers.keys, c.scheduler.timers.nodup_keys,
    fun id => ?_, ?_⟩
  · rw [Table.mem_keys_iff, ← htold.isArmed_iff, Scheduler.isArmed,
      Table.contains_eq]
  · simp [Clockwork.call, Scheduler.cancelCounting_keys]

theorem Told.isDue_iff (htold : Told h c) :
    c.scheduler.isDue c.clock generation = true ↔
      ∃ id due, Waits h generation id due ∧ due ≤ elapsed h := by
  rw [Scheduler.isDue, Option.any_eq_true, htold.clock]
  constructor
  · rintro ⟨⟨id, due⟩, hsleeper, hdue⟩
    exact ⟨id, due, (htold.sleepers generation id due).1 hsleeper,
      by simpa using hdue⟩
  · rintro ⟨id, due, hwaits, hdue⟩
    exact ⟨⟨id, due⟩, (htold.sleepers generation id due).2 hwaits,
      by simpa using hdue⟩

theorem Told.wake_iff (htold : Told h c) :
    (c.call (.wake generation)).1 = .answer true ↔
      ∃ id due, Waits h generation id due ∧ due ≤ elapsed h := by
  rw [← htold.isDue_iff]
  cases hdue : c.scheduler.isDue c.clock generation
    <;> simp [Clockwork.call, hdue]

end Faithful

/-- Whatever is asked of the timers, in whatever order, and however the time
passes. -/
theorem faithful_run (calls : List Call) :
    Faithful (start.history calls) (start.run calls) := by
  have htold := told_run calls
  exact {
    arm := fun id delay => by simp [Clockwork.call, htold.generations]
    new := fun id delay hmem => Nat.lt_irrefl _ (htold.numbered.lt_arms hmem)
    single := fun id generation delay generation' delay' => htold.single
    armedDelay := fun id delay => htold.armedDelay_iff
    complete := fun id generation => by
      rw [← htold.isCurrent_iff]
      simp [Clockwork.call]
    stale := fun id generation => htold.complete_stale
    cancel := fun id => by
      rw [← htold.isArmed_iff]
      simp [Clockwork.call]
    missing := fun id => htold.cancel_missing
    cancelAll := htold.cancelAll_count
    cleared := fun id => by
      simp [Clockwork.call, Scheduler.cancelCounting_keys, Scheduler.isArmed,
        Table.contains_eq]
    acts := fun generation => htold.wake_iff
    acted := by
      intro generation before later hsplit
      obtain ⟨earlier, rfl, hanswer⟩ := history_split hsplit
      exact (told_run earlier).wake_iff.1 hanswer.symm }

/-- A timer that is set for longer than the longest sleep acts before its delay
is over. -/
theorem acts_early :
    let calls : List Call := [.arm ⟨"a"⟩ 946080000001, .pass 946080000000]
    ((start.run calls).call (.wake 0)).1 = .answer true ∧
      elapsed (start.history calls) < (946080000001 : UInt64).toNat := by
  decide

end Clockwork

end Redelivery
