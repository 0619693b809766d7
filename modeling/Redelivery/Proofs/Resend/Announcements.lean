import Redelivery.Resend.StatusSource
import Redelivery.Table.Lemmas

/-!
# What a listener is still to hear

Every stream that begins is announced, and a listener hears of the announcements
in turn.  One that is too late hears that it has missed some and looks at every
id, so a message is never passed over: it was heard of, or it is still to be
heard of.
-/

namespace Redelivery.StatusSource

variable {s : StatusSource} {id : MessageId}

/-- A listener at a position is still to hear of a message: its id is announced
there or later, or the listener is so late that it looks at every id. -/
def Announces (s : StatusSource) (position : Nat) (id : MessageId) : Prop :=
  position < s.announced.size - announcementsKept ∨
    ∃ k, position ≤ k ∧ s.announced[k]? = some id

theorem announced_set (s : StatusSource) (id : MessageId)
    (status : DeliveryStatus) :
    (s.set id status).announced =
      if (s.current.get? id).isSome then s.announced
      else s.announced.push id := by
  unfold set
  cases s.current.get? id <;> rfl

@[simp]
theorem announced_remove (s : StatusSource) (id : MessageId) :
    (s.remove id).announced = s.announced := by
  unfold remove
  split <;> rfl

/-- A stream that begins is announced. -/
theorem announces_set {position : Nat} (hposition : position ≤ s.announced.size)
    (hnew : s.current.get? id = none) (status : DeliveryStatus) :
    (s.set id status).Announces position id := by
  right
  refine ⟨s.announced.size, hposition, ?_⟩
  rw [announced_set, hnew]
  simp

theorem size_announced_le_set (s : StatusSource) (id : MessageId)
    (status : DeliveryStatus) :
    s.announced.size ≤ (s.set id status).announced.size := by
  rw [announced_set]
  split
  next => exact Nat.le_refl _
  next => simp

theorem Announces.set {position : Nat} {id' : MessageId}
    (h : s.Announces position id') (id : MessageId) (status : DeliveryStatus) :
    (s.set id status).Announces position id' := by
  have hgrows := size_announced_le_set s id status
  rcases h with hlate | ⟨k, hposition, hk⟩
  · exact .inl (Nat.lt_of_lt_of_le hlate (Nat.sub_le_sub_right hgrows _))
  · refine .inr ⟨k, hposition, ?_⟩
    rw [announced_set]
    split
    next => exact hk
    next =>
      obtain ⟨hlt, _⟩ := Array.getElem?_eq_some_iff.1 hk
      rw [Array.getElem?_push_lt hlt, ← hk, Array.getElem?_eq_getElem hlt]

theorem Announces.remove {position : Nat} {id' : MessageId}
    (h : s.Announces position id') (id : MessageId) :
    (s.remove id).Announces position id' := by
  unfold Announces at h ⊢
  rwa [announced_remove]

theorem hear_eq_announced_iff {position heard : Nat} :
    s.hear position = (.announced id, heard) ↔
      ¬ position < s.announced.size - announcementsKept ∧
        s.announced[position]? = some id ∧ heard = position + 1 := by
  unfold hear
  generalize s.announced.size - announcementsKept = oldest
  by_cases hlate : position < oldest
  · simp [hlate]
  · cases hid : s.announced[position]? with
    | none => simp [hlate]
    | some id' => simp [hlate, eq_comm]

theorem hear_eq_missed_iff {position heard count : Nat} :
    s.hear position = (.missed count, heard) ↔
      position < s.announced.size - announcementsKept ∧
        heard = s.announced.size - announcementsKept ∧
        count = heard - position := by
  unfold hear
  generalize s.announced.size - announcementsKept = oldest
  by_cases hlate : position < oldest
  · simp [hlate]
    grind
  · cases hid : s.announced[position]? <;> simp [hlate]

theorem le_size_of_hear_announced {position heard : Nat}
    (hhear : s.hear position = (.announced id, heard)) :
    heard ≤ s.announced.size := by
  obtain ⟨_, hid, hheard⟩ := hear_eq_announced_iff.1 hhear
  obtain ⟨hlt, _⟩ := Array.getElem?_eq_some_iff.1 hid
  omega

theorem le_size_of_hear_missed {position heard count : Nat}
    (hhear : s.hear position = (.missed count, heard)) :
    heard ≤ s.announced.size := by
  obtain ⟨_, hheard, _⟩ := hear_eq_missed_iff.1 hhear
  rw [hheard]
  exact Nat.sub_le _ _

/-- What a listener has not heard of after an announcement, it had not heard of
before. -/
theorem announces_of_hear {position heard : Nat} {id' : MessageId}
    (hhear : s.hear position = (.announced id', heard)) :
    s.Announces position id ↔ id = id' ∨ s.Announces heard id := by
  obtain ⟨hearly, hposition, rfl⟩ := hear_eq_announced_iff.1 hhear
  constructor
  · rintro (hlate | ⟨k, hk, hid⟩)
    · exact absurd hlate hearly
    · rcases Nat.eq_or_lt_of_le hk with rfl | hlater
      · left
        rw [hposition] at hid
        cases hid
        rfl
      · exact .inr (.inr ⟨k, hlater, hid⟩)
  · rintro (rfl | hlate | ⟨k, hk, hid⟩)
    · exact .inr ⟨position, Nat.le_refl _, hposition⟩
    · exact absurd (Nat.lt_of_succ_lt hlate) hearly
    · exact .inr ⟨k, Nat.le_of_succ_le hk, hid⟩

/-- A listener that has heard all there is to hear is to hear of no message. -/
theorem not_announces_of_size_le {position : Nat}
    (hall : s.announced.size ≤ position) :
    ¬ s.Announces position id := by
  rintro (hlate | ⟨k, hk, hid⟩)
  · exact absurd (Nat.lt_of_lt_of_le hlate (Nat.sub_le _ _)) (by omega)
  · obtain ⟨hlt, _⟩ := Array.getElem?_eq_some_iff.1 hid
    omega

end Redelivery.StatusSource
