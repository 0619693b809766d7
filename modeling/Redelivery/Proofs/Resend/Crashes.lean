import Mathlib.Data.List.Nodup
import Mathlib.Data.List.Perm.Subperm
import Redelivery.Proofs.Resend.Saving

/-!
# Attempts across crashes

A service that ends anywhere and is loaded again from the store goes on with the
counters that were saved.  While every save takes place, each attempt that was
spent is counted in the store, and what is claimed later leads to a greater
counter.  So the attempts that are spent for a message have different counters,
and there are no more of them than the greater of the two bounds.
-/

namespace Redelivery

inductive Incident where
  | event (e : Event)
  /-- The service ends as it is, and one that is loaded from the store takes its
  place. -/
  | crash
deriving DecidableEq

/-- The task whose save, if it is at one, does not take place. -/
def Event.losing? : Event → Option Nat
  | .resume task false => some task
  | _ => none

namespace Service

/-- What a service becomes by an incident. -/
def meet (s : Service) : Incident → Service
  | .event e => s.step e
  | .crash => s.reload

/-- A save that ends takes place. -/
def Stores (s : Service) (e : Event) : Prop :=
  ∀ task ∈ e.losing?, ∀ routine ∈ s.tasks.get? task, routine.isWriting = false

/-- No save is lost, and the record of a message is neither removed by an event
nor, because it has expired, left out when the store is loaded. -/
def Spares (s : Service) (id : MessageId) : Incident → Prop
  | .event e => s.Stores e ∧ s.Retains id (s.step e)
  | .crash => ∀ l ∈ s.kept, ∀ r ∈ l.get? id, r.isExpired s.calendar = false

/-- No save is lost, and a message keeps its record, all along. -/
def SparesAll (s : Service) (id : MessageId) : List Incident → Prop
  | [] => True
  | i :: rest => s.Spares id i ∧ (s.meet i).SparesAll id rest

instance decidableStores (s : Service) (e : Event) : Decidable (s.Stores e) :=
  inferInstanceAs (Decidable (∀ task ∈ e.losing?, ∀ routine ∈ s.tasks.get? task,
    routine.isWriting = false))

instance decidableSpares (s : Service) (id : MessageId) :
    (i : Incident) → Decidable (s.Spares id i)
  | .event e =>
    inferInstanceAs (Decidable (s.Stores e ∧ (s.ledger.contains id = true →
      (s.step e).ledger.contains id = true)))
  | .crash => inferInstanceAs (Decidable (∀ l ∈ s.kept, ∀ r ∈ l.get? id,
      r.isExpired s.calendar = false))

instance decidableSparesAll (id : MessageId) :
    (s : Service) → (incidents : List Incident) →
    Decidable (s.SparesAll id incidents)
  | _, [] => .isTrue trivial
  | s, i :: rest =>
    have := decidableSparesAll id (s.meet i) rest
    inferInstanceAs (Decidable (s.Spares id i ∧ (s.meet i).SparesAll id rest))

end Service

namespace Journal

/-- Enters an incident.  The tasks of a service that has ended carry nothing
on. -/
def meet (j : Journal) : Incident → Journal
  | .event e => j.step e
  | .crash => { j with service := j.service.reload, carried := .empty }

def endure (j : Journal) (incidents : List Incident) : Journal :=
  incidents.foldl meet j

def spent (j : Journal) (id : MessageId) : List UInt32 :=
  (j.sent.filter fun entry => entry.2.id = id).map fun entry => entry.2.count

/-- A task is to spend an attempt for a message, whose claim led to the counter
`n`. -/
def Bears (j : Journal) (id : MessageId) (task : Nat) (n : UInt32) : Prop :=
  ∃ routine place a, j.service.tasks.get? task = some routine ∧
    routine.owed ≠ [] ∧
    j.carried.get? task = some (place, a) ∧ a.id = id ∧ a.count = n

def Ready (j : Journal) (id : MessageId) (task : Nat) (n : UInt32) : Prop :=
  ∃ r next place a, j.service.tasks.get? task = some (.send r next) ∧
    j.carried.get? task = some (place, a) ∧ a.id = id ∧ a.count = n

def Passed (j : Journal) (id : MessageId) (n : UInt32) : Prop :=
  n ∈ j.spent id ∨ ∃ task, j.Ready id task n

end Journal

/-- A ledger counts every attempt for a message that was spent or is about to
be. -/
structure Ledger.Backs (l : Ledger) (j : Journal) (id : MessageId) : Prop where
  counted : ∀ n, l.attempts? id = some n → l.contains id = true
  positive : 0 < (attemptsMade (l.attempts? id)).toNat
  passed : ∀ n, j.Passed id n → l.Holds id n

theorem Ledger.Backs.mono {l : Ledger} {j t : Journal} {id : MessageId}
    (hl : l.Backs j id) (hpassed : ∀ n, t.Passed id n → j.Passed id n) :
    l.Backs t id :=
  ⟨hl.counted, hl.positive, fun n hn => hl.passed n (hpassed n hn)⟩

namespace Journal

/-- The attempts that were spent for a message and those that are to be spent
have different counters, none of them beyond `most` and one. -/
structure Apart (j : Journal) (id : MessageId) (most : Nat) : Prop where
  borne : ∀ task n, j.Bears id task n →
    j.service.ledger.Holds id n ∧ n ∉ j.spent id ∧ 2 ≤ n.toNat ∧
      n.toNat ≤ most + 1
  single : ∀ task task' n, j.Bears id task n → j.Bears id task' n → task = task'
  distinct : (j.spent id).Nodup
  range : ∀ n ∈ j.spent id, 2 ≤ n.toNat ∧ n.toNat ≤ most + 1

/-- What is spent is counted in the ledger, in the store and in what is being
saved. -/
structure Durable (j : Journal) (id : MessageId) (most : Nat) :
    Prop extends j.Apart id most where
  counted : j.service.ledger.Counted
  saving : j.service.Saving
  ledger : j.service.ledger.Backs j id
  kept : (j.service.kept.getD .empty).Backs j id
  copies : ∀ task copy, j.service.Saves task copy →
    copy.Backs j id ∧ ∀ n, j.Bears id task n → copy.Holds id n

variable {j t : Journal} {e : Event} {id : MessageId} {most : Nat}
  {start : Service}
  {task : Nat} {n : UInt32}

theorem Ready.bears (hready : j.Ready id task n) : j.Bears id task n := by
  obtain ⟨r, next, place, a, htask, hrest⟩ := hready
  exact ⟨_, place, a, htask, by simp, hrest⟩

/-- An event leaves the ledger with all that it counted, where the message keeps
its record. -/
theorem Durable.backs_step (hj : j.Durable id most)
    (hretains : j.service.Retains id (j.service.step e))
    (hpassed : ∀ n, (j.step e).Passed id n → j.service.ledger.Holds id n) :
    (j.service.step e).ledger.Backs (j.step e) id where
  counted := (Service.transition_step j.service e).counted hj.counted id
  positive := Nat.lt_of_lt_of_le hj.ledger.positive
    ((Service.course_step j.service e).le_made hj.counted hretains)
  passed := fun n hn =>
    (Service.course_step j.service e).holds hj.counted hretains (hpassed n hn)

/-! ## Events that neither claim nor spend an attempt -/

section Unspent

variable (hclaimed : j.service.claimed? e = none)
  (hsender : j.service.sender? e = none)

include hclaimed hsender

theorem step_eq : j.step e = { j with service := j.service.step e } := by
  simp [step, hclaimed, hsender]

theorem spent_step : (j.step e).spent id = j.spent id := by
  rw [step_eq hclaimed hsender]
  rfl

theorem bears_of_step (hbears : (j.step e).Bears id task n) :
    j.Bears id task n := by
  rw [step_eq hclaimed hsender] at hbears
  obtain ⟨routine, place, a, htask, howes, hrest⟩ := hbears
  have hcourse := Service.course_step j.service e
  rcases hcourse.owed_cases hclaimed hsender htask with hclear |
    ⟨old, hold, howed⟩
  · exact absurd hclear howes
  · exact ⟨old, place, a, hold, by rwa [howed], hrest⟩

theorem Apart.step (hj : j.Apart id most) (hcounted : j.service.ledger.Counted)
    (hretains : j.service.Retains id (j.service.step e)) :
    (j.step e).Apart id most where
  borne := by
    intro task n hn
    obtain ⟨hholds, hrest⟩ :=
      hj.borne task n (bears_of_step hclaimed hsender hn)
    rw [spent_step hclaimed hsender]
    exact ⟨(Service.course_step j.service e).holds hcounted hretains hholds,
      hrest⟩
  single := by
    intro task task' n hn hn'
    exact hj.single task task' n (bears_of_step hclaimed hsender hn)
      (bears_of_step hclaimed hsender hn')
  distinct := by
    rw [spent_step hclaimed hsender]
    exact hj.distinct
  range := by
    rw [spent_step hclaimed hsender]
    exact hj.range

/-- No save ends either. -/
theorem Durable.step_of_none (hj : j.Durable id most)
    (hends : ∀ task saved copy, e = .resume task saved →
      ¬j.service.Saves task copy)
    (hretains : j.service.Retains id (j.service.step e)) :
    (j.step e).Durable id most := by
  have hcourse := Service.course_step j.service e
  obtain ⟨hkept, hsends⟩ := hcourse.sends_of_none hclaimed hsender hends
  have hpassed (n : UInt32) (hn : (j.step e).Passed id n) : j.Passed id n := by
    rcases hn with hn | ⟨task, hready⟩
    · exact .inl (spent_step hclaimed hsender ▸ hn)
    · rw [step_eq hclaimed hsender] at hready
      obtain ⟨r, next, place, a, htask, hrest⟩ := hready
      exact .inr ⟨task, r, next, place, a, hsends task r next htask, hrest⟩
  refine ⟨hj.toApart.step hclaimed hsender hj.counted hretains, ?_,
    hcourse.saving hj.saving, ?_, ?_, ?_⟩
  · exact (Service.transition_step j.service e).counted hj.counted
  · exact hj.backs_step hretains fun n hn => hj.ledger.passed n (hpassed n hn)
  · rw [service_step, hkept]
    exact hj.kept.mono hpassed
  · intro task copy hsaves
    rcases hcourse.saves_cases hj.saving hsaves with hold | ⟨_, rfl, _⟩
    · obtain ⟨hbacks, hown⟩ := hj.copies task copy hold
      exact ⟨hbacks.mono hpassed, fun n hn =>
        hown n (bears_of_step hclaimed hsender hn)⟩
    · exact ⟨hj.ledger.mono hpassed,
        fun n hn => (hj.borne task n (bears_of_step hclaimed hsender hn)).1⟩

end Unspent

/-- A save takes place, after which its task may be ready for the attempt that
it bears. -/
theorem Durable.step_of_saves (hj : j.Durable id most) {copy : Ledger}
    (hsaves : j.service.Saves task copy)
    (hretains : j.service.Retains id (j.service.step (.resume task true))) :
    (j.step (.resume task true)).Durable id most := by
  have hcourse := Service.course_step j.service (.resume task true)
  obtain ⟨hbacks, hown⟩ := hj.copies task copy hsaves
  obtain ⟨next, htask⟩ := hsaves
  have hclaimed : j.service.claimed? (.resume task true) = none := by
    simp [Service.claimed?, htask]
  have hsender : j.service.sender? (.resume task true) = none := by
    simp [Service.sender?, htask]
  have hservice := Service.step_of_writes htask
  have hpassed (n : UInt32) (hn : (j.step (.resume task true)).Passed id n) :
      j.Passed id n ∨ j.Bears id task n := by
    rcases hn with hn | ⟨task', hready⟩
    · exact .inl (.inl (spent_step hclaimed hsender ▸ hn))
    · by_cases hsame : task' = task
      · subst hsame
        exact .inr (bears_of_step hclaimed hsender hready.bears)
      · rw [step_eq hclaimed hsender] at hready
        obtain ⟨r, next', place, a, htask', hrest⟩ := hready
        simp only [hservice, Service.tasks_setRoutine, if_neg hsame] at htask'
        exact .inl (.inr ⟨task', r, next', place, a, htask', hrest⟩)
  refine ⟨hj.toApart.step hclaimed hsender hj.counted hretains, ?_,
    hcourse.saving hj.saving, ?_, ?_, ?_⟩
  · exact (Service.transition_step j.service _).counted hj.counted
  · refine hj.backs_step hretains fun n hn => ?_
    rcases hpassed n hn with hold | hborne
    · exact hj.ledger.passed n hold
    · exact (hj.borne task n hborne).1
  · have hkept : (j.service.step (.resume task true)).kept = some copy := by
      rw [hservice]
      simp
    rw [service_step, hkept]
    refine ⟨hbacks.counted, hbacks.positive, fun n hn => ?_⟩
    rcases hpassed n hn with hold | hborne
    · exact hbacks.passed n hold
    · exact hown n hborne
  · intro task' copy' hsaves'
    rw [service_step, hservice] at hsaves'
    obtain ⟨hother, hbefore⟩ :=
      Service.saves_setRoutine_of_plain (hj.saving.plain_of_write htask) hsaves'
    exact absurd
      (hj.saving.single task' task copy' copy hbefore ⟨next, htask⟩) hother

/-! ## Claims -/

/-- A task that bears an attempt after another one was claimed is the one that
claimed it, or bore an attempt before. -/
theorem bears_of_claimed {a : Attempt}
    (hclaimed : j.service.claimed? e = some a)
    (hbears : (j.step e).Bears id task n) :
    (task = a.task ∧ a.id = id ∧ a.count = n) ∨
    (task ≠ a.task ∧ j.Bears id task n) := by
  have hclaims := Service.claims_step hclaimed
  rw [step_of_claimed hclaimed] at hbears
  obtain ⟨routine, place, b, htask, howes, hcarried, hrest⟩ := hbears
  simp only [Table.get?_insert] at hcarried
  split at hcarried
  next hsame =>
    cases hcarried
    exact .inl ⟨hsame, hrest⟩
  next hother =>
    rw [hclaims.others task hother] at htask
    exact .inr ⟨hother, routine, place, b, htask, howes, hcarried, hrest⟩

theorem passed_of_claimed {a : Attempt}
    (hclaimed : j.service.claimed? e = some a)
    (hpassed : (j.step e).Passed id n) : j.Passed id n := by
  have hclaims := Service.claims_step hclaimed
  rw [step_of_claimed hclaimed] at hpassed
  rcases hpassed with hspent | ⟨task, r, next, place, b, htask, hcarried, hrest⟩
  · exact .inl hspent
  · by_cases hsame : task = a.task
    · obtain ⟨_, _, hnew⟩ := hclaims.task
      rw [hsame, hnew] at htask
      cases htask
    · rw [hclaims.others task hsame] at htask
      simp only [Table.get?_insert, if_neg hsame] at hcarried
      exact .inr ⟨task, r, next, place, b, htask, hcarried, hrest⟩

/-- What the ledger counts is below what a claim leads to. -/
theorem lt_count_of_holds {a : Attempt} {s t : Service}
    (hclaims : Service.Claims s a t)
    (hroom : (a.bound.limit s.config).toNat < UInt32.size - 1)
    (hholds : s.ledger.Holds a.id n) : n.toNat < a.count.toNat := by
  obtain ⟨m, hm, hle⟩ := hholds
  have hm : s.attempts? a.id = some m := hm
  have hwithin := UInt32.le_iff_toNat_le.1 hclaims.within
  have hle := UInt32.le_iff_toNat_le.1 hle
  rw [hclaims.count, toNat_nextCount (Nat.lt_of_le_of_lt hwithin hroom), hm]
  exact Nat.lt_succ_of_le hle

theorem spent_of_claimed {a : Attempt}
    (hclaimed : j.service.claimed? e = some a) :
    (j.step e).spent id = j.spent id := by
  rw [Journal.step_of_claimed hclaimed]
  rfl

/-- The new attempt is beyond all that was counted before, so its counter is a
new one. -/
theorem Apart.step_of_claimed (hj : j.Apart id most)
    (hbacks : j.service.ledger.Backs j id) (hcounted : j.service.ledger.Counted)
    {a : Attempt} (hclaimed : j.service.claimed? e = some a)
    (hroom : (a.bound.limit j.service.config).toNat < UInt32.size - 1)
    (hmost : (a.bound.limit j.service.config).toNat ≤ most)
    (hretains : j.service.Retains id (j.service.step e)) :
    (j.step e).Apart id most := by
  have hclaims := Service.claims_step hclaimed
  have hspent : (j.step e).spent id = j.spent id := spent_of_claimed hclaimed
  have hnew (n : UInt32) (hsame : a.id = id)
      (hholds : j.service.ledger.Holds id n) :
      n ≠ a.count := by
    subst hsame
    have hlt := lt_count_of_holds hclaims hroom hholds
    rintro rfl
    exact Nat.lt_irrefl _ hlt
  refine ⟨?_, ?_, ?_, ?_⟩
  · intro task n hn
    rw [hspent]
    rcases bears_of_claimed hclaimed hn with ⟨_, rfl, rfl⟩ | ⟨_, hbefore⟩
    · have hpositive : 0 < j.service.made a.id := hbacks.positive
      have hwithin :
          j.service.made a.id ≤ (a.bound.limit j.service.config).toNat :=
        UInt32.le_iff_toNat_le.1 hclaims.within
      have hcount : a.count.toNat = j.service.made a.id + 1 := by
        rw [hclaims.count, toNat_nextCount (Nat.lt_of_le_of_lt hwithin hroom)]
        rfl
      refine ⟨⟨a.count, ?_, UInt32.le_refl _⟩, ?_, by omega, by omega⟩
      · have hafter := hclaims.attempts?_eq a.id
        rwa [if_pos rfl] at hafter
      · intro hspent
        exact hnew a.count rfl (hbacks.passed _ (.inl hspent)) rfl
    · obtain ⟨hholds, hrest⟩ := hj.borne task n hbefore
      exact ⟨(Service.course_step j.service e).holds hcounted hretains hholds,
        hrest⟩
  · intro task task' n hn hn'
    rcases bears_of_claimed hclaimed hn with ⟨htask, hsame, hcount⟩ |
      ⟨_, hbefore⟩
    · rcases bears_of_claimed hclaimed hn' with ⟨htask', _⟩ | ⟨_, hbefore'⟩
      · rw [htask, htask']
      · exact absurd hcount.symm (hnew n hsame (hj.borne task' n hbefore').1)
    · rcases bears_of_claimed hclaimed hn' with ⟨_, hsame, hcount⟩ |
        ⟨_, hbefore'⟩
      · exact absurd hcount.symm (hnew n hsame (hj.borne task n hbefore).1)
      · exact hj.single task task' n hbefore hbefore'
  · rw [hspent]
    exact hj.distinct
  · rw [hspent]
    exact hj.range

theorem Durable.step_of_claimed (hj : j.Durable id most) {a : Attempt}
    (hclaimed : j.service.claimed? e = some a)
    (hroom : (a.bound.limit j.service.config).toNat < UInt32.size - 1)
    (hmost : (a.bound.limit j.service.config).toNat ≤ most)
    (hretains : j.service.Retains id (j.service.step e)) :
    (j.step e).Durable id most := by
  have hclaims := Service.claims_step hclaimed
  have hcourse := Service.course_step j.service e
  have hpassed (n : UInt32) (hn : (j.step e).Passed id n) :=
    passed_of_claimed hclaimed hn
  refine ⟨hj.toApart.step_of_claimed hj.ledger hj.counted hclaimed hroom hmost
      hretains, ?_,
    hcourse.saving hj.saving, ?_, ?_, ?_⟩
  · exact (Service.transition_step j.service e).counted hj.counted
  · exact hj.backs_step hretains fun n hn => hj.ledger.passed n (hpassed n hn)
  · rw [service_step, hclaims.kept]
    exact hj.kept.mono hpassed
  · intro task copy hsaves
    have hother : task ≠ a.task := by
      rintro rfl
      obtain ⟨next, hclear, hnow⟩ := hclaims.task
      exact Service.not_saves_of_plain hnow hclear.plain hsaves
    obtain ⟨next, htask⟩ := hsaves
    rw [service_step, hclaims.others task hother] at htask
    obtain ⟨hbacks, hown⟩ := hj.copies task copy ⟨next, htask⟩
    refine ⟨hbacks.mono hpassed, fun n hn => ?_⟩
    rcases bears_of_claimed hclaimed hn with ⟨hsame, _⟩ | ⟨_, hbefore⟩
    · exact absurd hsame hother
    · exact hown n hbefore

/-! ## Sends -/

section Spent

variable {place : Nat} {a : Attempt} (hspends : Spends j task place a t)

include hspends

theorem spent_of_spends :
    t.spent id = j.spent id ++ if a.id = id then [a.count] else [] := by
  by_cases hsame : a.id = id <;> simp [spent, hspends.sent, hsame]

theorem ready_of_spends (hsame : a.id = id) : j.Ready id task a.count := by
  obtain ⟨next, htask, _⟩ := hspends.hands
  exact ⟨a.record, next, place, a, htask, hspends.carried, hsame, rfl⟩

theorem mem_spent_of_spends (hn : n ∈ t.spent id) :
    n ∈ j.spent id ∨ j.Ready id task n := by
  rw [spent_of_spends hspends] at hn
  rcases List.mem_append.1 hn with hold | hnew
  · exact .inl hold
  · split at hnew
    next hsame =>
      rw [List.mem_singleton.1 hnew]
      exact .inr (ready_of_spends hspends hsame)
    next => cases hnew

theorem bears_of_spends {other : Nat} (hn : t.Bears id other n) :
    other ≠ task ∧ j.Bears id other n := by
  obtain ⟨routine, place', b, htask, howes, hcarried, hrest⟩ := hn
  have hother : other ≠ task := by
    rintro rfl
    exact howes (hspends.owed_eq_nil htask)
  rw [hspends.tasks_of_ne hother] at htask
  rw [hspends.carries] at hcarried
  exact ⟨hother, routine, place', b, htask, howes, hcarried, hrest⟩

theorem passed_of_spends (hn : t.Passed id n) : j.Passed id n := by
  rcases hn with hn | ⟨other, hready⟩
  · rcases mem_spent_of_spends hspends hn with hold | hready
    · exact .inl hold
    · exact .inr ⟨task, hready⟩
  · have hother := (bears_of_spends hspends hready.bears).1
    obtain ⟨r, next, place', b, htask, hcarried, hrest⟩ := hready
    rw [hspends.tasks_of_ne hother] at htask
    rw [hspends.carries] at hcarried
    exact .inr ⟨other, r, next, place', b, htask, hcarried, hrest⟩

theorem Apart.of_spends (hj : j.Apart id most)
    (hholds : ∀ n, j.service.ledger.Holds id n → t.service.ledger.Holds id n) :
    t.Apart id most where
  borne := by
    intro other n hn
    obtain ⟨hother, hbefore⟩ := bears_of_spends hspends hn
    obtain ⟨hcounts, hunspent, hrange⟩ := hj.borne other n hbefore
    refine ⟨hholds n hcounts, fun hn' => ?_, hrange⟩
    rcases mem_spent_of_spends hspends hn' with hold | hready
    · exact hunspent hold
    · exact hother (hj.single other task n hbefore hready.bears)
  single := by
    intro other other' n hn hn'
    exact hj.single other other' n (bears_of_spends hspends hn).2
      (bears_of_spends hspends hn').2
  distinct := by
    rw [spent_of_spends hspends]
    split
    next hsame =>
      have hunspent :=
        (hj.borne task a.count (ready_of_spends hspends hsame).bears).2.1
      refine List.nodup_append.2 ⟨hj.distinct, by simp, ?_⟩
      intro n hn m hm
      rw [List.mem_singleton.1 hm]
      rintro rfl
      exact hunspent hn
    next =>
      rw [List.append_nil]
      exact hj.distinct
  range := by
    intro n hn
    rcases mem_spent_of_spends hspends hn with hold | hready
    · exact hj.range n hold
    · exact (hj.borne task n hready.bears).2.2

end Spent

/-- A task hands a message over, for the attempt that it carries. -/
theorem Durable.step_of_sender (hj : j.Durable id most)
    (hordered : j.Orderly start) (hsender : j.service.sender? e = some task)
    (hretains : j.service.Retains id (j.service.step e)) :
    (j.step e).Durable id most := by
  have hcourse := Service.course_step j.service e
  obtain ⟨place, a, hspends⟩ := hordered.spends hsender
  have hpassed (n : UInt32) (hn : (j.step e).Passed id n) :=
    passed_of_spends hspends hn
  obtain ⟨next, htask, _, hservice⟩ := hspends.hands
  refine ⟨hj.toApart.of_spends hspends fun n hn =>
    hcourse.holds hj.counted hretains hn, ?_,
    hcourse.saving hj.saving, ?_, ?_, ?_⟩
  · exact (Service.transition_step j.service e).counted hj.counted
  · exact hj.backs_step hretains fun n hn => hj.ledger.passed n (hpassed n hn)
  · have hkept : (j.step e).service.kept = j.service.kept := by
      rw [hservice]
      simp
    rw [hkept]
    exact hj.kept.mono hpassed
  · intro other copy hsaves
    rw [hservice] at hsaves
    have hbefore :=
      (Service.saves_setRoutine_of_plain
        (hj.saving.plain_of_send htask) hsaves).2
    obtain ⟨hbacks, hown⟩ := hj.copies other copy hbefore
    exact ⟨hbacks.mono hpassed, fun n hn =>
      hown n (bears_of_spends hspends hn).2⟩

/-! ## Crashes -/

/-- A ledger that is loaded counts a message as the store does, if that has not
expired. -/
theorem attempts?_restored {kept : Option Ledger} {now : UInt64}
    (hcounted : ∀ n, (kept.getD .empty).attempts? id = some n →
      (kept.getD .empty).contains id = true)
    (hlive : ∀ l ∈ kept, ∀ r ∈ l.get? id, r.isExpired now = false) :
    (Ledger.restored kept now).attempts? id =
      (kept.getD .empty).attempts? id := by
  cases kept with
  | none => rfl
  | some l =>
    change (l.prune now).attempts? id = l.attempts? id
    rw [Ledger.attempts?_prune]
    cases hn : l.attempts? id with
    | none => rfl
    | some n =>
      have hcontains : l.contains id = true := hcounted n hn
      rw [Ledger.contains_eq] at hcontains
      obtain ⟨r, hr⟩ := Option.isSome_iff_exists.1 hcontains
      have hfind : l.find? now id = some r :=
        Ledger.find?_eq_some_iff.2 ⟨hr, hlive l rfl r hr⟩
      simp [hfind]

theorem Durable.meet_crash (hj : j.Durable id most)
    (hlive : ∀ l ∈ j.service.kept, ∀ r ∈ l.get? id,
      r.isExpired j.service.calendar = false) :
    (j.meet .crash).Durable id most := by
  have hnone (task : Nat) : (j.meet .crash).service.tasks.get? task = none :=
    rfl
  have hbears (task : Nat) (n : UInt32) : ¬(j.meet .crash).Bears id task n := by
    rintro ⟨routine, place, a, htask, _⟩
    rw [hnone] at htask
    cases htask
  have hpassed (n : UInt32) (hn : (j.meet .crash).Passed id n) :
      j.Passed id n := by
    rcases hn with hspent | ⟨task, hready⟩
    · exact .inl hspent
    · exact absurd hready.bears (hbears task n)
  have hattempts := attempts?_restored hj.kept.counted hlive
  have hcounted := Ledger.counted_restored j.service.kept j.service.calendar
  refine ⟨⟨?_, ?_, hj.distinct, hj.range⟩, hcounted, ⟨?_, ?_⟩,
    ⟨hcounted id, ?_, ?_⟩, hj.kept.mono hpassed, ?_⟩
  · exact fun task n hn => absurd hn (hbears task n)
  · exact fun task _ n hn => absurd hn (hbears task n)
  · intro task routine htask
    rw [hnone] at htask
    cases htask
  · rintro task task' copy copy' ⟨next, htask⟩
    rw [hnone] at htask
    cases htask
  · change 0 <
      (attemptsMade ((Ledger.restored j.service.kept _).attempts? id)).toNat
    rw [hattempts]
    exact hj.kept.positive
  · intro n hn
    obtain ⟨m, hm, hle⟩ := hj.kept.passed n (hpassed n hn)
    exact ⟨m, hattempts.trans hm, hle⟩
  · rintro task copy ⟨next, htask⟩
    rw [hnone] at htask
    cases htask

theorem Orderly.meet_crash (hj : j.Orderly start) :
    (j.meet .crash).Orderly start where
  placed := hj.placed
  apart := hj.apart
  outbox := hj.outbox
  latest := by simp [meet]
  owing := by
    intro task routine htask
    have hnone : (j.meet .crash).service.tasks.get? task = none := rfl
    rw [hnone] at htask
    cases htask

/-! ## Runs with crashes -/

/-- The bounds leave room for one more attempt, and none allows more than
`most`. -/
structure Limits (config : ResendConfig) (most : Nat) : Prop where
  room : ∀ bound : ResendBound, (bound.limit config).toNat < UInt32.size - 1
  most : ∀ bound : ResendBound, (bound.limit config).toNat ≤ most

theorem Durable.meet (hj : j.Durable id most) (hordered : j.Orderly start)
    (hlimits : Limits j.service.config most) {i : Incident}
    (hspares : j.service.Spares id i) :
    (j.meet i).Durable id most := by
  cases i with
  | crash => exact hj.meet_crash hspares
  | event e =>
    obtain ⟨hstores, hretains⟩ := hspares
    cases hclaimed : j.service.claimed? e with
    | some a =>
      exact hj.step_of_claimed hclaimed (hlimits.room a.bound)
        (hlimits.most a.bound) hretains
    | none =>
      cases hsender : j.service.sender? e with
      | some task => exact hj.step_of_sender hordered hsender hretains
      | none =>
        by_cases hends : ∃ task saved copy, e = .resume task saved ∧
          j.service.Saves task copy
        · obtain ⟨task, saved, copy, rfl, hsaves⟩ := hends
          cases saved with
          | true => exact hj.step_of_saves hsaves hretains
          | false =>
            obtain ⟨next, htask⟩ := hsaves
            cases hstores task rfl _ htask
        · refine hj.step_of_none hclaimed hsender ?_ hretains
          intro task saved copy he hsaves
          exact hends ⟨task, saved, copy, he, hsaves⟩

theorem service_meet (j : Journal) (i : Incident) :
    (j.meet i).service = j.service.meet i := by
  cases i <;> rfl

theorem config_meet (s : Service) (i : Incident) :
    (s.meet i).config = s.config := by
  cases i with
  | event e => exact (Service.transition_step s e).config
  | crash => rfl

theorem Orderly.meet (hj : j.Orderly start) (i : Incident) :
    (j.meet i).Orderly start := by
  cases i with
  | event e => exact hj.step e
  | crash => exact hj.meet_crash

theorem Orderly.endure (hj : j.Orderly start) (incidents : List Incident) :
    (j.endure incidents).Orderly start := by
  induction incidents generalizing j with
  | nil => exact hj
  | cons i rest ih => exact ih (hj.meet i)

theorem Durable.endure {incidents : List Incident} (hj : j.Durable id most)
    (hordered : j.Orderly start) (hlimits : Limits j.service.config most)
    (hspares : j.service.SparesAll id incidents) :
    (j.endure incidents).Durable id most := by
  induction incidents generalizing j with
  | nil => exact hj
  | cons i rest ih =>
    apply ih (hj.meet hordered hlimits hspares.1) (hordered.meet i)
    · rw [service_meet, config_meet]
      exact hlimits
    · rw [service_meet]
      exact hspares.2

theorem durable_opened (hstart : start.Fresh)
    (habsent : start.attempts? id = none)
    (hkept : ∀ l ∈ start.kept, l.attempts? id = none) :
    (opened start).Durable id most := by
  have hbacks {l : Ledger} (hnone : l.attempts? id = none) :
      l.Backs (opened start) id := by
    refine ⟨?_, ?_, ?_⟩
    · intro n hn
      rw [hnone] at hn
      cases hn
    · rw [hnone]
      decide
    · rintro n (hspent | ⟨task, r, next, place, a, htask, _⟩)
      · cases hspent
      · simp [opened, hstart.tasks] at htask
  have hnone (task : Nat) : (opened start).service.tasks.get? task = none := by
    simp [opened, hstart.tasks]
  refine ⟨⟨?_, ?_, List.nodup_nil, ?_⟩, hstart.counted, hstart.saving,
    hbacks habsent, ?_, ?_⟩
  · rintro task n ⟨routine, place, a, htask, _⟩
    rw [hnone] at htask
    cases htask
  · rintro task task' n ⟨routine, place, a, htask, _⟩
    rw [hnone] at htask
    cases htask
  · intro n hn
    cases hn
  · apply hbacks
    cases hl : start.kept with
    | none => simp [opened, hl]
    | some l => simpa [opened, hl] using hkept l hl
  · rintro task copy ⟨next, htask⟩
    rw [hnone] at htask
    cases htask

/-- As many numbers as lie between two and `most` and one. -/
theorem Durable.countP_le (hj : j.Durable id most) :
    j.sent.countP (·.2.id = id) ≤ most := by
  have hlength :
      j.sent.countP (·.2.id = id) = ((j.spent id).map UInt32.toNat).length := by
    simp [spent, List.countP_eq_length_filter]
  have hnodup : ((j.spent id).map UInt32.toNat).Nodup :=
    List.Nodup.map (fun _ _ => UInt32.toNat_inj.1) hj.distinct
  have hsubset : (j.spent id).map UInt32.toNat ⊆ List.range' 2 most := by
    intro m hm
    obtain ⟨n, hn, rfl⟩ := List.mem_map.1 hm
    obtain ⟨hlow, hhigh⟩ := hj.range n hn
    rw [List.mem_range'_1]
    omega
  calc
    j.sent.countP (·.2.id = id) = ((j.spent id).map UInt32.toNat).length :=
      hlength
    _ ≤ (List.range' 2 most).length := (hnodup.subperm hsubset).length_le
    _ = most := List.length_range'

/-- A message is handed over, the user has it sent again, and that is saved. -/
def saved : List Event :=
  [.register (.waiting ⟨"m1"⟩), .resend ⟨"m1"⟩, .resume 1 true, .resume 1 true]

/-- The message is sent, the service ends and is loaded again, and ends once
more with another attempt that is claimed only. -/
def crashed : List Incident :=
  saved.map .event ++
    [.event (.resume 1 true), .crash, .event (.resend ⟨"m1"⟩), .crash,
      .event (.resend ⟨"m1"⟩), .event (.resume 0 true), .event (.resume 0 true),
      .event (.resume 0 true)]

end Journal

end Redelivery
