import Redelivery.Ledger.Basic
import Redelivery.Table.Lemmas

/-!
# Look-ups in the ledger

What each change of the ledger does to the record and to the counter of a
message.  Everything that is proved about the service reads the ledger through
these look-ups.
-/

namespace Redelivery

/-- A life that is over stays over as the calendar goes on. -/
theorem Record.isExpired_mono {r : Record} {now later : UInt64}
    (hclock : now ≤ later) (hexpired : r.isExpired now = true) :
    r.isExpired later = true := by
  simp only [isExpired, decide_eq_true_eq] at hexpired ⊢
  exact UInt64.lt_of_lt_of_le hexpired hclock

namespace Ledger

variable {l : Ledger} {id : MessageId} {r : Record} {now : UInt64}

@[simp]
theorem get?_empty (id : MessageId) : Ledger.empty.get? id = none := rfl

@[simp]
theorem attempts?_empty (id : MessageId) : Ledger.empty.attempts? id = none :=
  rfl

@[simp]
theorem get?_upsert (l : Ledger) (r : Record) (id : MessageId) :
    (l.upsert r).get? id = if id = r.id then some r else l.get? id :=
  Table.get?_insert l.records r.id id r

@[simp]
theorem attempts?_upsert (l : Ledger) (r : Record) (id : MessageId) :
    (l.upsert r).attempts? id = l.attempts? id := rfl

@[simp]
theorem get?_remove (l : Ledger) (id id' : MessageId) :
    (l.remove id).get? id' = if id' = id then none else l.get? id' :=
  Table.get?_erase l.records id id'

@[simp]
theorem attempts?_remove (l : Ledger) (id id' : MessageId) :
    (l.remove id).attempts? id' = if id' = id then none else l.attempts? id' :=
  Table.get?_erase l.attempts id id'

@[simp]
theorem get?_setAttempts (l : Ledger) (id id' : MessageId) (n : UInt32) :
    (l.setAttempts id n).get? id' = l.get? id' := rfl

@[simp]
theorem attempts?_setAttempts (l : Ledger) (id id' : MessageId) (n : UInt32) :
    (l.setAttempts id n).attempts? id' =
      if id' = id then some n else l.attempts? id' :=
  Table.get?_insert l.attempts id id' n

theorem contains_eq (l : Ledger) (id : MessageId) :
    l.contains id = (l.get? id).isSome := rfl

theorem contains_remove {id' : MessageId} (hother : id' ≠ id)
    (hcontains : l.contains id' = true) :
    (l.remove id).contains id' = true := by
  rw [contains_eq] at hcontains ⊢
  rwa [get?_remove, if_neg hother]

/-- A record is found just when it is there and its life is not over. -/
theorem find?_eq_some_iff :
    l.find? now id = some r ↔ l.get? id = some r ∧ r.isExpired now = false := by
  simp [find?, Option.filter_eq_some_iff]

theorem find?_eq_none_iff :
    l.find? now id = none ↔
      ∀ r, l.get? id = some r → r.isExpired now = true := by
  simp [find?, Option.filter_eq_none_iff]

theorem contains_of_find? (hfind : (l.find? now id).isSome = true) :
    l.contains id = true := by
  obtain ⟨r, hr⟩ := Option.isSome_iff_exists.1 hfind
  simp [contains_eq, (find?_eq_some_iff.1 hr).1]

@[simp]
theorem get?_prune (l : Ledger) (now : UInt64) (id : MessageId) :
    (l.prune now).get? id = l.find? now id :=
  Table.get?_filter l.records (fun _ r => !r.isExpired now) id

theorem attempts?_prune (l : Ledger) (now : UInt64) (id : MessageId) :
    (l.prune now).attempts? id =
      (l.attempts? id).filter fun _ => (l.find? now id).isSome := by
  have hlive : ((l.prune now).records.contains id) = (l.find? now id).isSome :=
    congrArg Option.isSome (get?_prune l now id)
  rw [← hlive]
  exact Table.get?_filter l.attempts
    (fun id _ => (l.prune now).records.contains id) id

/-- Pruning takes nothing away that would be found. -/
@[simp]
theorem find?_prune (l : Ledger) (now : UInt64) (id : MessageId) :
    (l.prune now).find? now id = l.find? now id := by
  rw [find?, get?_prune, find?, Option.filter_filter]
  simp

/-! ## Counters of messages with a record -/

/-- Only messages with a record are counted. -/
def Counted (l : Ledger) : Prop :=
  ∀ id n, l.attempts? id = some n → l.contains id = true

theorem Counted.attempts?_eq_none (hcounted : l.Counted)
    (hnone : l.contains id = false) :
    l.attempts? id = none := by
  cases hn : l.attempts? id with
  | none => rfl
  | some n =>
    rw [hcounted id n hn] at hnone
    cases hnone

theorem Counted.upsert (hcounted : l.Counted) (r : Record) :
    (l.upsert r).Counted := by
  intro id n hn
  have hbefore := hcounted id n hn
  rw [contains_eq] at hbefore ⊢
  rw [get?_upsert]
  split
  next => rfl
  next => exact hbefore

theorem Counted.remove (hcounted : l.Counted) (id : MessageId) :
    (l.remove id).Counted := by
  intro id' n hn
  rw [attempts?_remove] at hn
  split at hn
  next => cases hn
  next hother => exact contains_remove hother (hcounted id' n hn)

theorem Counted.setAttempts (hcounted : l.Counted)
    (hcontains : l.contains id = true) (n : UInt32) :
    (l.setAttempts id n).Counted := by
  intro id' n' hn'
  rw [attempts?_setAttempts] at hn'
  split at hn'
  next same => rw [same]; exact hcontains
  next => exact hcounted id' n' hn'

/-- Pruning drops the counters of messages without a record. -/
theorem counted_restored (kept : Option Ledger) (now : UInt64) :
    (Ledger.restored kept now).Counted := by
  intro id n hn
  cases kept with
  | none => simp [Ledger.restored] at hn
  | some l =>
    change (l.prune now).attempts? id = some n at hn
    change (l.prune now).contains id = true
    rw [attempts?_prune, Option.filter_eq_some_iff] at hn
    rw [contains_eq, get?_prune]
    exact hn.2

/-! ## Records under their own ids -/

theorem keyed_empty : Ledger.empty.Keyed := by
  intro id r hr
  simp at hr

theorem Keyed.upsert (hkeyed : l.Keyed) (r : Record) : (l.upsert r).Keyed := by
  intro id r' hr'
  rw [get?_upsert] at hr'
  split at hr'
  next same =>
    cases hr'
    exact same.symm
  next => exact hkeyed id r' hr'

theorem Keyed.remove (hkeyed : l.Keyed) (id : MessageId) :
    (l.remove id).Keyed := by
  intro id' r hr
  rw [get?_remove] at hr
  split at hr
  next => cases hr
  next => exact hkeyed id' r hr

theorem Keyed.setAttempts (hkeyed : l.Keyed) (id : MessageId) (n : UInt32) :
    (l.setAttempts id n).Keyed :=
  hkeyed

theorem Keyed.prune (hkeyed : l.Keyed) (now : UInt64) :
    (l.prune now).Keyed := by
  intro id r hr
  rw [get?_prune, find?_eq_some_iff] at hr
  exact hkeyed id r hr.1

theorem Keyed.id_of_mem (hkeyed : l.Keyed) {e : MessageId × Record}
    (he : e ∈ l.records.toList) : e.2.id = e.1 :=
  hkeyed e.1 e.2 ((Table.mem_toList_iff l.records e.1 e.2).1 he)

/-- Where every record stands under its own id, the listing goes by the keys. -/
theorem Keyed.listing_eq (hkeyed : l.Keyed) : l.listing = l.records.values := by
  refine List.mergeSort_of_pairwise (List.pairwise_map.2 ?_)
  refine l.records.ascending.imp_of_mem fun {a b} ha hb hlt => ?_
  rw [hkeyed.id_of_mem ha, hkeyed.id_of_mem hb, hlt]
  rfl

/-- Pruning takes the expired records out of the listing and leaves its
order. -/
theorem Keyed.listing_prune (hkeyed : l.Keyed) (now : UInt64) :
    (l.prune now).listing = l.listing.filter fun r => !r.isExpired now := by
  rw [(hkeyed.prune now).listing_eq, hkeyed.listing_eq, Table.values,
    Table.values, List.filter_map]
  rfl

theorem Keyed.restored {kept : Option Ledger} (hkeyed : ∀ l ∈ kept, l.Keyed)
    (now : UInt64) :
    (Ledger.restored kept now).Keyed := by
  cases kept with
  | none => exact keyed_empty
  | some l => exact (hkeyed l rfl).prune now

end Ledger

end Redelivery
