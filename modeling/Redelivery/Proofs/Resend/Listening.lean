import Redelivery.Proofs.Resend.Announcements
import Redelivery.Proofs.Resend.Followers

/-!
# What is heard is followed

A started service listens for announced ids.  A message whose announcement is
still to be heard is awaited; once it is heard of, a task follows it if it has a
live record.
-/

namespace Redelivery.Service

variable {s t : Service} {e : Event} {id : MessageId} {task position : Nat}

/-- A listener is still to hear of a message. -/
def Awaited (s : Service) (id : MessageId) : Prop :=
  ∃ task position, s.position? task = some position ∧
    s.source.Announces position id

/-! ## Whom the service begins to follow -/

theorem subscriptions_attach_of_current (hrunning : s.shutDown = false)
    (hheld : (s.source.current.get? id).isSome = true) :
    ((s.attach id).subscriptions.get? id).isSome = true := by
  rcases attach_cases s id with ⟨hsame, hrefused⟩ | ⟨stream, _, _, _, hattach⟩
  · rw [hsame]
    rcases hrefused with hshut | hfollowed | hnone
    · rw [hrunning] at hshut
      cases hshut
    · exact hfollowed
    · rw [hnone] at hheld
      cases hheld
  · rw [hattach]
    simp

theorem subscriptions_attachTracked_of_live (hrunning : s.shutDown = false)
    (hheld : (s.source.current.get? id).isSome = true)
    (hlive : (s.record? id).isSome = true) :
    ((s.attachTracked id).subscriptions.get? id).isSome = true := by
  rw [attachTracked, if_pos hlive]
  exact subscriptions_attach_of_current hrunning hheld

/-- A message that is followed stays so when another one is looked at. -/
theorem subscriptions_attachTracked_mono (id' : MessageId)
    (hfollowed : (s.subscriptions.get? id).isSome = true) :
    ((s.attachTracked id').subscriptions.get? id).isSome = true := by
  refine attachTracked_elim hfollowed ?_
  intro _
  rcases attach_cases s id' with ⟨hsame, _⟩ | ⟨stream, _, _, _, hattach⟩
  · rwa [hsame]
  · rw [hattach]
    simp only [Table.get?_insert]
    split
    next => rfl
    next => exact hfollowed

theorem subscriptions_foldl_attachTracked (ids : List MessageId) (s : Service)
    (hrunning : s.shutDown = false)
    (hheld : (s.source.current.get? id).isSome = true)
    (hlive : (s.record? id).isSome = true)
    (hid : id ∈ ids ∨ (s.subscriptions.get? id).isSome = true) :
    ((ids.foldl attachTracked s).subscriptions.get? id).isSome = true := by
  induction ids generalizing s with
  | nil =>
    rcases hid with hmem | hfollowed
    · cases hmem
    · exact hfollowed
  | cons first rest ih =>
    rw [List.foldl_cons]
    refine ih (s.attachTracked first) (by simpa using hrunning)
      (by simpa using hheld) ?_ ?_
    · rwa [record?_attachTracked]
    · rcases hid with hmem | hfollowed
      · rcases List.mem_cons.1 hmem with rfl | hrest
        · exact .inr (subscriptions_attachTracked_of_live hrunning hheld hlive)
        · exact .inl hrest
      · exact .inr (subscriptions_attachTracked_mono first hfollowed)

/-- A rescan leaves no message with a live record behind that the source
holds. -/
theorem subscriptions_attachKnown_of_live (hrunning : s.shutDown = false)
    (hheld : (s.source.current.get? id).isSome = true)
    (hlive : (s.record? id).isSome = true) :
    (s.attachKnown.subscriptions.get? id).isSome = true := by
  have hid : id ∈ s.source.ids := (Table.mem_keys_iff _ _).2 hheld
  exact subscriptions_foldl_attachTracked s.source.ids s hrunning hheld hlive
    (.inl hid)

/-- A message that is looked at and not followed then has no live record. -/
theorem record?_of_attachTracked (hrunning : s.shutDown = false)
    (hheld : (s.source.current.get? id).isSome = true)
    (hunfollowed : (s.attachTracked id).subscriptions.get? id = none) :
    s.record? id = none := by
  cases hlive : s.record? id with
  | none => rfl
  | some r =>
    have hfollowed :=
      subscriptions_attachTracked_of_live hrunning hheld
        (Option.isSome_of_eq_some hlive)
    rw [hunfollowed] at hfollowed
    cases hfollowed

theorem record?_of_attachKnown (hrunning : s.shutDown = false)
    (hheld : (s.source.current.get? id).isSome = true)
    (hunfollowed : s.attachKnown.subscriptions.get? id = none) :
    s.record? id = none := by
  cases hlive : s.record? id with
  | none => rfl
  | some r =>
    have hfollowed :=
      subscriptions_attachKnown_of_live hrunning hheld
        (Option.isSome_of_eq_some hlive)
    rw [hunfollowed] at hfollowed
    cases hfollowed

/-! ## Listeners go on -/

/-- A listener goes on from its position, or hears of what comes next. -/
theorem Transition.listens (htransition : Transition s e t) (hs : s.Coherent)
    (hposition : s.position? task = some position) :
    t.position? task = some position ∨ t.shutDown = true ∨
      (∃ id heard, s.source.hear position = (.announced id, heard) ∧
        t = (s.attachTracked id).setRoutine task (.listen heard)) ∨
      ∃ count heard, s.source.hear position = (.missed count, heard) ∧
        t = s.attachKnown.setRoutine task (.listen heard) := by
  obtain ⟨routine, htask, hlistens⟩ := Option.bind_eq_some_iff.1 hposition
  have hkept {u : Service} (hu : u.tasks.get? task = some routine) :
      u.position? task = some position := by
    rw [position?_of_get? hu, hlistens]
  rcases htransition.tasks_of_get? hs htask with hsame | hshut | ⟨saved, rfl⟩ |
    ⟨r, _, _, hr⟩
  · exact .inl (hkept hsame)
  · exact .inr (.inl hshut)
  · have hown {old : Routine} (hold : s.tasks.get? task = some old) :
        old = routine :=
      Option.some.inj (hold.symm.trans htask)
    cases htransition with
    | idle => exact .inl hposition
    | refuse => exact .inl (hkept (hs.tasks_spawn_of_get? _ htask))
    | chore _ _ old left u hold _ hchore =>
      left
      rw [position?_setRoutine, if_pos rfl, ← hlistens, ← hown hold]
      cases hchore <;> simp
    | catchUp _ _ _ _ _ _ _ _ hold =>
      rw [← hown hold] at hlistens
      cases hlistens
    | restate _ _ cursor seen status r hhears =>
      rw [← hown hhears.following] at hlistens
      cases hlistens
    | drop _ _ cursor hold =>
      rw [← hown hold] at hlistens
      cases hlistens
    | leave _ _ cursor hold =>
      rw [← hown hold] at hlistens
      cases hlistens
    | hear _ _ _ heard id hold hheard =>
      rw [← hown hold] at hlistens
      cases hlistens
      exact .inr (.inr (.inl ⟨id, heard, hheard, rfl⟩))
    | rescan _ _ _ heard count hold hmissed =>
      rw [← hown hold] at hlistens
      cases hlistens
      exact .inr (.inr (.inr ⟨count, heard, hmissed, rfl⟩))
  · obtain ⟨cursor, hcursor, _⟩ := (hs.followed r.id task).1 hr
    rw [Service.cursor?_of_get? htask] at hcursor
    rw [Routine.position?_eq_none_of_cursor? hcursor] at hlistens
    cases hlistens

/-- When nothing is left to do, nothing is left to be heard. -/
theorem not_awaited_of_atRest (hrest : s.atRest = true) : ¬ s.Awaited id := by
  rintro ⟨task, position, hposition, hannounces⟩
  obtain ⟨routine, htask, hlistens⟩ := Option.bind_eq_some_iff.1 hposition
  have hready := isReady_of_atRest hrest htask
  cases routine with
  | save => simp [isReady, isWriting_of_atRest hrest] at hready
  | write => cases hready
  | send => cases hready
  | listen position' =>
    cases hlistens
    have hall : s.source.announced.size ≤ position := by
      simpa [isReady] using hready
    exact StatusSource.not_announces_of_size_le hall hannounces
  | _ => cases hlistens

/-! ## Nobody begins to listen -/

/-- Every task that listens did so before, and has heard no more since. -/
def KeepsListeners (s t : Service) : Prop :=
  ∀ task position, t.position? task = some position →
    s.position? task = some position

theorem keepsListeners_refl (s : Service) : s.KeepsListeners s :=
  fun _ _ hlistens => hlistens

theorem KeepsListeners.trans {u : Service} (hst : s.KeepsListeners t)
    (htu : t.KeepsListeners u) : s.KeepsListeners u :=
  fun task position hlistens => hst task position (htu task position hlistens)

theorem keepsListeners_spawn (s : Service) {routine : Routine}
    (hnone : routine.position? = none) :
    s.KeepsListeners (s.spawn routine) := by
  intro task position hlistens
  rw [position?_spawn] at hlistens
  split at hlistens
  next =>
    rw [hnone] at hlistens
    cases hlistens
  next => exact hlistens

theorem keepsListeners_setRoutine (s : Service) (task : Nat) {routine : Routine}
    (hnone : routine.position? = none) :
    s.KeepsListeners (s.setRoutine task routine) := by
  intro task' position hlistens
  rw [position?_setRoutine] at hlistens
  split at hlistens
  next =>
    rw [hnone] at hlistens
    cases hlistens
  next => exact hlistens

theorem keepsListeners_apply (s : Service) (r : Record) (origin : Option Nat) :
    s.KeepsListeners (s.apply r origin) := by
  intro task position hlistens
  rw [position?, tasks_apply] at hlistens
  split at hlistens
  next => cases hlistens
  next => exact hlistens

theorem keepsListeners_claim {bound : ResendBound} {sweeping : Bool}
    {r : Record} (hclaim : s.claim id bound sweeping = some (r, t)) :
    s.KeepsListeners t := by
  obtain ⟨_, _, _, _, rfl⟩ := claim_eq_some_iff.1 hclaim
  exact s.keepsListeners_refl

theorem keepsListeners_attachTracked (s : Service) (id : MessageId) :
    s.KeepsListeners (s.attachTracked id) := by
  refine attachTracked_elim s.keepsListeners_refl ?_
  intro _
  rcases attach_cases s id with ⟨hsame, _⟩ | ⟨stream, _, _, _, hattach⟩
  · rw [hsame]
    exact s.keepsListeners_refl
  · rw [hattach]
    exact s.keepsListeners_spawn rfl

theorem keepsListeners_attachKnown (s : Service) :
    s.KeepsListeners s.attachKnown := by
  refine attachKnown_induction s.keepsListeners_refl ?_
  intro t id ht
  exact ht.trans (t.keepsListeners_attachTracked id)

end Redelivery.Service
