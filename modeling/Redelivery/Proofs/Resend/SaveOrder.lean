import Mathlib.Data.List.Induction
import Redelivery.Proofs.Resend.Saving

/-!
# Saves in order

The service may share its ledger: others change it too, and ask for it to be
saved.  One save is made at a time, and what it writes is copied when its turn
comes.  So the copies that come to be stored are states that the ledger went
through, in their order, and a save that takes place stores what the ledger was
like at some moment after the save was asked for.
-/

namespace Redelivery

/-- One thing that is done with a ledger that the service shares with others. -/
inductive Handling where
  | service (e : Event)
  | upsert (record : Record)
  | remove (id : MessageId)
  | setAttempts (id : MessageId) (attempts : UInt32)
  | persist
deriving DecidableEq

namespace Service

def handle (s : Service) : Handling → Service
  | .service e => s.step e
  | .upsert r => { s with ledger := s.ledger.upsert r }
  | .remove id => { s with ledger := s.ledger.remove id }
  | .setAttempts id n => { s with ledger := s.ledger.setAttempts id n }
  | .persist => s.spawn (.save (.answer 0))

/-- What the service is after some things were done with its ledger, one after
the other. -/
def after (s : Service) (handlings : List Handling) : Service :=
  handlings.foldl handle s

def ledgerAt (start : Service) (handlings : List Handling) (moment : Nat) :
    Ledger :=
  (start.after (handlings.take moment)).ledger

/-- A task has asked for the ledger to be saved, and waits for its turn. -/
def Awaits (s : Service) (task : Nat) : Prop :=
  ∃ next, s.tasks.get? task = some (.save next)

/-- The copy of the ledger that takes the place of what the store holds. -/
def stored? (s : Service) : Handling → Option Ledger
  | .service (.resume task true) =>
    match s.tasks.get? task with
    | some (.write copy _) => some copy
    | _ => none
  | _ => none

/-- The copies that are stored, one after the other. -/
def stored (s : Service) : List Handling → List Ledger
  | [] => []
  | h :: rest => (s.stored? h).toList ++ (s.handle h).stored rest

variable {s start : Service} {h : Handling} {handlings : List Handling}
  {task : Nat}
  {copy : Ledger}

theorem after_concat (s : Service) (handlings : List Handling) (h : Handling) :
    s.after (handlings ++ [h]) = (s.after handlings).handle h := by
  simp [after]

theorem stored_concat (s : Service) (handlings : List Handling) (h : Handling) :
    s.stored (handlings ++ [h]) =
      s.stored handlings ++ ((s.after handlings).stored? h).toList := by
  induction handlings generalizing s with
  | nil => simp [stored, after]
  | cons first rest ih => simp [stored, ih, after]

theorem ledgerAt_concat {moment : Nat} (hpast : moment ≤ handlings.length)
    (h : Handling) :
    start.ledgerAt (handlings ++ [h]) moment =
      start.ledgerAt handlings moment := by
  rw [ledgerAt, List.take_append_of_le_length hpast, ledgerAt]

/-! ## One thing more -/

theorem stored?_eq_some (hstored : s.stored? h = some copy) :
    ∃ task next, h = .service (.resume task true) ∧
      s.tasks.get? task = some (.write copy next) := by
  unfold stored? at hstored
  split at hstored
  next task =>
    split at hstored
    next copy' next htask =>
      cases hstored
      exact ⟨task, next, rfl, htask⟩
    next => cases hstored
  next => cases hstored

theorem Saving.handle (hs : s.Saving) (h : Handling) : (s.handle h).Saving := by
  cases h with
  | service e => exact (course_step s e).saving hs
  | upsert | remove | setAttempts => exact hs.of_adds (.of_same fun _ => rfl)
  | persist =>
    have hclear : (Routine.save (.answer 0)).Clear := ⟨rfl, rfl⟩
    exact hs.of_adds (adds_spawn hclear)

/-- A task that saves did so before, or its turn has just come. -/
theorem Saving.saves_handle (hs : s.Saving)
    (hsaves : (s.handle h).Saves task copy) :
    s.Saves task copy ∨ copy = s.ledger ∧ s.Awaits task := by
  cases h with
  | service e =>
    rcases (course_step s e).saves_cases hs hsaves with hold |
      ⟨-, hcopy, saved, next, -, hwaits⟩
    · exact .inl hold
    · exact .inr ⟨hcopy, next, hwaits⟩
  | upsert | remove | setAttempts => exact .inl hsaves
  | persist =>
    have hclear : (Routine.save (.answer 0)).Clear := ⟨rfl, rfl⟩
    exact .inl ((adds_spawn hclear).saves hsaves)

/-- The store changes only where a copy is stored. -/
theorem Saving.kept_handle (hs : s.Saving) (hstored : s.stored? h = none) :
    (s.handle h).kept = s.kept := by
  cases h with
  | service e =>
    rcases (course_step s e).kept_cases hs with hsame |
      ⟨task, copy, rfl, ⟨next, htask⟩, -⟩
    · exact hsame
    · simp [stored?, htask] at hstored
  | upsert | remove | setAttempts | persist => rfl

/-- When a copy has been stored nobody saves. -/
theorem Saving.handle_of_stored (hs : s.Saving)
    (hstored : s.stored? h = some copy) :
    (s.handle h).kept = some copy ∧
    ∀ task copy', ¬(s.handle h).Saves task copy' := by
  obtain ⟨task, next, rfl, htask⟩ := stored?_eq_some hstored
  refine ⟨?_, fun task' copy' =>
    not_saves_of_isWriting (hs.isWriting_step ⟨next, htask⟩)⟩
  rw [Service.handle, step_of_writes htask]
  simp

/-! ## When a copy was taken -/

/-- A copy of the ledger was taken at the last moment at which its task waited
for its turn. -/
structure TakenAt (start : Service) (handlings : List Handling) (task : Nat)
    (copy : Ledger) (moment : Nat) : Prop where
  past : moment < handlings.length
  copied : copy = start.ledgerAt handlings moment
  waited : (start.after (handlings.take moment)).Awaits task
  last : ∀ begun ≤ handlings.length,
    (start.after (handlings.take begun)).Awaits task → begun ≤ moment

theorem Saves.not_awaits (hsaves : s.Saves task copy) : ¬s.Awaits task := by
  obtain ⟨next, htask⟩ := hsaves
  rintro ⟨next', hwaits⟩
  cases htask.symm.trans hwaits

/-- Who saves now did not wait just before. -/
theorem le_of_awaits {begun : Nat}
    (hsaves : (start.after (handlings ++ [h])).Saves task copy)
    (hwaits : (start.after ((handlings ++ [h]).take begun)).Awaits task) :
    begun ≤ handlings.length ∧
    (start.after (handlings.take begun)).Awaits task := by
  have hpast : begun ≤ handlings.length := by
    by_contra hlate
    rw [List.take_of_length_le (by simp; omega)] at hwaits
    exact hsaves.not_awaits hwaits
  rw [List.take_append_of_le_length hpast] at hwaits
  exact ⟨hpast, hwaits⟩

theorem TakenAt.concat {moment : Nat}
    (htaken : start.TakenAt handlings task copy moment)
    (hsaves : (start.after (handlings ++ [h])).Saves task copy) :
    start.TakenAt (handlings ++ [h]) task copy moment where
  past := by
    have hpast := htaken.past
    simp
    omega
  copied := by
    rw [ledgerAt_concat (Nat.le_of_lt htaken.past)]
    exact htaken.copied
  waited := by
    rw [List.take_append_of_le_length (Nat.le_of_lt htaken.past)]
    exact htaken.waited
  last := by
    intro begun _ hwaits
    obtain ⟨hpast, hwaits⟩ := le_of_awaits hsaves hwaits
    exact htaken.last begun hpast hwaits

theorem takenAt_now (hwaits : (start.after handlings).Awaits task)
    (hsaves : (start.after (handlings ++ [h])).Saves task
      (start.after handlings).ledger) :
    start.TakenAt (handlings ++ [h]) task
      (start.after handlings).ledger handlings.length where
  past := by simp
  copied := by simp [ledgerAt]
  waited := by simpa using hwaits
  last := fun _ _ hwaits => (le_of_awaits hsaves hwaits).1

/-! ## Moments in order -/

/-- The copies that were stored were taken at some moments, one after the other,
and a copy that is being saved was taken after them. -/
structure Ascends (start : Service) (handlings : List Handling)
    (moments : List Nat) : Prop where
  ascending : moments.Pairwise (· < ·)
  past : ∀ moment ∈ moments, moment < handlings.length
  stored : start.stored handlings = moments.map (start.ledgerAt handlings)
  saving : (start.after handlings).Saving
  copies : ∀ task copy, (start.after handlings).Saves task copy →
    ∃ moment, start.TakenAt handlings task copy moment ∧
      ∀ earlier ∈ moments, earlier < moment

variable {moments : List Nat}

theorem Ascends.map_concat (horder : start.Ascends handlings moments)
    (h : Handling) :
    moments.map (start.ledgerAt (handlings ++ [h])) =
      moments.map (start.ledgerAt handlings) :=
  List.map_congr_left fun moment hmoment =>
    ledgerAt_concat (Nat.le_of_lt (horder.past moment hmoment)) h

theorem Ascends.concat_of_stored (horder : start.Ascends handlings moments)
    (hstored : (start.after handlings).stored? h = some copy) :
    ∃ moment, start.Ascends (handlings ++ [h]) (moments ++ [moment]) := by
  obtain ⟨-, hnobody⟩ := horder.saving.handle_of_stored hstored
  obtain ⟨task, next, -, htask⟩ := stored?_eq_some hstored
  obtain ⟨moment, htaken, hlater⟩ := horder.copies task copy ⟨next, htask⟩
  refine ⟨moment, ?_, ?_, ?_, ?_, ?_⟩
  · refine List.pairwise_append.2
      ⟨horder.ascending, List.pairwise_singleton _ _, ?_⟩
    intro earlier hearlier last hlast
    rw [List.mem_singleton.1 hlast]
    exact hlater earlier hearlier
  · intro m hm
    have hpast : m < handlings.length := by
      rcases List.mem_append.1 hm with hbefore | hnew
      · exact horder.past m hbefore
      · rw [List.mem_singleton.1 hnew]
        exact htaken.past
    simp
    omega
  · rw [stored_concat, hstored, List.map_append, horder.map_concat,
      horder.stored, List.map_singleton,
      ledgerAt_concat (Nat.le_of_lt htaken.past), ← htaken.copied]
    rfl
  · rw [after_concat]
    exact horder.saving.handle h
  · intro task' copy' hsaves
    rw [after_concat] at hsaves
    exact absurd hsaves (hnobody task' copy')

theorem Ascends.concat_of_none (horder : start.Ascends handlings moments)
    (hstored : (start.after handlings).stored? h = none) :
    start.Ascends (handlings ++ [h]) moments where
  ascending := horder.ascending
  past := by
    intro moment hmoment
    have hpast := horder.past moment hmoment
    simp
    omega
  stored := by
    rw [stored_concat, hstored, horder.map_concat, horder.stored]
    simp
  saving := by
    rw [after_concat]
    exact horder.saving.handle h
  copies := by
    intro task copy hsaves
    have hbefore := hsaves
    rw [after_concat] at hbefore
    rcases horder.saving.saves_handle hbefore with hold | ⟨rfl, hwaits⟩
    · obtain ⟨moment, htaken, hlater⟩ := horder.copies task copy hold
      exact ⟨moment, htaken.concat hsaves, hlater⟩
    · exact ⟨handlings.length, takenAt_now hwaits hsaves, horder.past⟩

theorem ascends_after (hstart : start.tasks = .empty)
    (handlings : List Handling) :
    ∃ moments, start.Ascends handlings moments := by
  have hnobody : ∀ task routine, start.tasks.get? task ≠ some routine := by
    simp [hstart]
  induction handlings using List.reverseRecOn with
  | nil =>
    refine ⟨[], List.Pairwise.nil, by simp, rfl, ⟨?_, ?_⟩, ?_⟩
    · intro task routine htask
      exact absurd htask (hnobody task routine)
    · rintro task task' copy copy' ⟨next, htask⟩
      exact absurd htask (hnobody task _)
    · rintro task copy ⟨next, htask⟩
      exact absurd htask (hnobody task _)
  | append_singleton handlings h ih =>
    obtain ⟨moments, horder⟩ := ih
    cases hstored : (start.after handlings).stored? h with
    | none => exact ⟨moments, horder.concat_of_none hstored⟩
    | some copy =>
      obtain ⟨moment, hmore⟩ := horder.concat_of_stored hstored
      exact ⟨moments ++ [moment], hmore⟩

/-! ## What a save leaves in the store -/

/-- What a copy shows is what the ledger showed at a moment, or what that was
changed to since. -/
def Covers {α : Type} (start : Service) (handlings : List Handling)
    (begun : Nat) (view : Ledger → α) (copy : Ledger) : Prop :=
  view copy = view (start.ledgerAt handlings begun) ∨
    ∃ moment, begun ≤ moment ∧ moment < handlings.length ∧
      view (start.ledgerAt handlings (moment + 1)) ≠
        view (start.ledgerAt handlings moment) ∧
      view copy = view (start.ledgerAt handlings (moment + 1))

/-- A task that has saved leaves in the store a copy that was taken while it
waited, and that covers all that had been done when it asked for it. -/
structure Kept (start : Service) (handlings : List Handling) (task : Nat)
    (copy : Ledger) :
    Prop where
  taken : ∃ moment, start.TakenAt handlings task copy moment
  kept : (start.after (handlings ++ [.service (.resume task true)])).kept =
    some copy
  records : ∀ begun ≤ handlings.length,
    (start.after (handlings.take begun)).Awaits task →
    ∀ id, start.Covers handlings begun (fun l => l.get? id) copy
  counters : ∀ begun ≤ handlings.length,
    (start.after (handlings.take begun)).Awaits task →
    ∀ id, start.Covers handlings begun (fun l => l.attempts? id) copy

/-- The store only ever goes on to later states of the ledger. -/
structure SavesInOrder (start : Service)
    (handlings : List Handling) : Prop where
  /-- The copies that are stored are states of the ledger in the order of their
  moments. -/
  ordered : ∃ moments : List Nat, moments.Pairwise (· < ·) ∧
    (∀ moment ∈ moments, moment < handlings.length) ∧
    start.stored handlings = moments.map (start.ledgerAt handlings)
  latest : (start.after handlings).kept =
    (start.stored handlings).getLast?.or start.kept
  /-- A save that takes place stores a state from after it was asked for. -/
  saved : ∀ before task later copy,
    handlings = before ++ .service (.resume task true) :: later →
    (start.after before).Saves task copy → start.Kept before task copy

theorem covers_of_le {α : Type} (view : Ledger → α) {begun moment : Nat}
    (hle : begun ≤ moment) (hpast : moment ≤ handlings.length) :
    start.Covers handlings begun view (start.ledgerAt handlings moment) := by
  induction hle with
  | refl => exact .inl rfl
  | @step moment hle ih =>
    by_cases hsame :
        view (start.ledgerAt handlings (moment + 1)) =
          view (start.ledgerAt handlings moment)
    · unfold Covers
      rw [hsame]
      exact ih (by omega)
    · exact .inr ⟨moment, hle, hpast, hsame, rfl⟩

theorem TakenAt.covers {α : Type} {moment begun : Nat}
    (htaken : start.TakenAt handlings task copy moment)
    (hpast : begun ≤ handlings.length)
    (hwaits : (start.after (handlings.take begun)).Awaits task)
    (view : Ledger → α) :
    start.Covers handlings begun view copy := by
  rw [htaken.copied]
  exact covers_of_le view (htaken.last begun hpast hwaits)
    (Nat.le_of_lt htaken.past)

theorem Ascends.kept (horder : start.Ascends handlings moments)
    (hsaves : (start.after handlings).Saves task copy) :
    start.Kept handlings task copy := by
  obtain ⟨moment, htaken, -⟩ := horder.copies task copy hsaves
  refine ⟨⟨moment, htaken⟩, ?_, ?_, ?_⟩
  · obtain ⟨next, htask⟩ := hsaves
    have hstored : (start.after handlings).stored?
        (.service (.resume task true)) = some copy := by
      simp [stored?, htask]
    rw [after_concat]
    exact (horder.saving.handle_of_stored hstored).1
  · exact fun begun hpast hwaits id => htaken.covers hpast hwaits _
  · exact fun begun hpast hwaits id => htaken.covers hpast hwaits _

theorem kept_after (hstart : start.tasks = .empty) (handlings : List Handling) :
    (start.after handlings).kept =
      (start.stored handlings).getLast?.or start.kept := by
  induction handlings using List.reverseRecOn with
  | nil => rfl
  | append_singleton handlings h ih =>
    obtain ⟨moments, horder⟩ := ascends_after hstart handlings
    rw [after_concat, stored_concat]
    cases hstored : (start.after handlings).stored? h with
    | none => simpa [horder.saving.kept_handle hstored] using ih
    | some copy => simp [(horder.saving.handle_of_stored hstored).1]

/-- Whatever is done with the ledger while it is saved, by whomever, and
whichever saves fail. -/
theorem savesInOrder_after (hstart : start.tasks = .empty)
    (handlings : List Handling) :
    start.SavesInOrder handlings where
  ordered := by
    obtain ⟨moments, horder⟩ := ascends_after hstart handlings
    exact ⟨moments, horder.ascending, horder.past, horder.stored⟩
  latest := kept_after hstart handlings
  saved := by
    rintro before task later copy - hsaves
    obtain ⟨moments, horder⟩ := ascends_after hstart before
    exact horder.kept hsaves

/-- Two saves overlap: the second is asked for while the first is under way, and
what was added in between is stored with it. -/
def overlapping : List Handling :=
  [.persist, .upsert (.waiting ⟨"m1"⟩), .service (.resume 0 true), .persist,
    .upsert (.waiting ⟨"m2"⟩), .service (.resume 1 true),
    .service (.resume 0 true),
    .service (.resume 1 true), .remove ⟨"m1"⟩, .service (.resume 1 true)]

theorem savesInOrder_after_overlapping :
    (Service.new .standard .empty default 0).tasks = .empty ∧
      (Service.new .standard .empty default 0).SavesInOrder overlapping ∧
      ((Service.new .standard .empty default 0).stored overlapping).map
        Ledger.size = [1, 2] :=
  ⟨rfl, savesInOrder_after rfl overlapping, by decide⟩

end Service

end Redelivery
