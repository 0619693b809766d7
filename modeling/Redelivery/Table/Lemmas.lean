import Redelivery.Table

/-!
# Look-ups in tables

What each table operation does to look-ups, that two tables with the same
look-ups are equal, and what look-ups say about the listings of a table.
-/

namespace Redelivery.Table

variable {κ α β : Type} [Ord κ]

@[simp]
theorem get?_empty (k : κ) : (empty : Table κ α).get? k = none := rfl

theorem contains_eq (t : Table κ α) (k : κ) :
    t.contains k = (t.get? k).isSome := rfl

theorem lookup_eq_none {k : κ} {l : List (κ × α)}
    (h : ∀ e ∈ l, compare k e.1 ≠ .eq) :
    lookup k l = none := by
  induction l with
  | nil => rfl
  | cons e rest ih =>
    simp only [List.mem_cons, forall_eq_or_imp] at h
    simp [lookup, h.1, ih h.2]

section Lawful

variable [Std.LawfulEqOrd κ]

theorem lookup_place [DecidableEq κ] (k k' : κ) (v : α) (l : List (κ × α)) :
    lookup k' (place k v l) = if k' = k then some v else lookup k' l := by
  induction l with
  | nil => by_cases h : k' = k <;> simp [place, lookup, h]
  | cons e rest ih =>
    unfold place
    split
    next below => by_cases h : k' = k <;> simp [lookup, h]
    next same =>
      have hk : k = e.1 := by simpa using same
      by_cases h : k' = k
      · simp [lookup, h]
      · simp [lookup, h, hk.symm]
    next above =>
      have hk : k ≠ e.1 := by rintro rfl; simp at above
      by_cases h : k' = k
      · subst h; simp [lookup, hk, ih]
      · simp [lookup, h, ih]

@[simp]
theorem get?_insert [Std.TransOrd κ] [DecidableEq κ] (t : Table κ α) (k k' : κ)
    (v : α) :
    (t.insert k v).get? k' = if k' = k then some v else t.get? k' :=
  lookup_place k k' v t.entries

theorem lookup_filter_of_ascending {l : List (κ × α)}
    (h : l.Pairwise fun a b => compare a.1 b.1 = .lt) (keep : κ → α → Bool)
    (k : κ) :
    lookup k (l.filter fun e => keep e.1 e.2) =
      (lookup k l).filter (keep k) := by
  induction l with
  | nil => rfl
  | cons e rest ih =>
    obtain ⟨first, others⟩ := List.pairwise_cons.1 h
    by_cases hk : k = e.1
    · subst hk
      by_cases he : keep e.1 e.2
      · simp [lookup, he, Option.filter]
      · have missing :
            lookup e.1 (rest.filter fun e => keep e.1 e.2) = none := by
          refine lookup_eq_none fun x hx => ?_
          rw [first x (List.mem_filter.1 hx).1]
          decide
        simp [lookup, he, missing, Option.filter]
    · by_cases he : keep e.1 e.2
      · simp [lookup, he, hk, ih others]
      · simp [lookup, he, hk, ih others]

@[simp]
theorem get?_filter (t : Table κ α) (keep : κ → α → Bool) (k : κ) :
    (t.filter keep).get? k = (t.get? k).filter (keep k) :=
  lookup_filter_of_ascending t.ascending keep k

@[simp]
theorem get?_erase [DecidableEq κ] (t : Table κ α) (k k' : κ) :
    (t.erase k).get? k' = if k' = k then none else t.get? k' := by
  rw [erase, get?_filter]
  by_cases h : k' = k
  · subst h; cases t.get? k' <;> simp [Option.filter]
  · have : k ≠ k' := fun e => h e.symm
    cases t.get? k' <;> simp [Option.filter, h, this]

theorem mem_of_lookup {k : κ} {v : α} {l : List (κ × α)}
    (h : lookup k l = some v) :
    (k, v) ∈ l := by
  induction l with
  | nil => simp [lookup] at h
  | cons e rest ih =>
    unfold lookup at h
    split at h
    next same =>
      have hk : k = e.1 := by simpa using same
      cases h
      simp [hk]
    next => exact List.mem_cons_of_mem _ (ih h)

theorem lookup_of_mem {k : κ} {v : α} {l : List (κ × α)}
    (h : l.Pairwise fun a b => compare a.1 b.1 = .lt) (hm : (k, v) ∈ l) :
    lookup k l = some v := by
  induction l with
  | nil => simp at hm
  | cons e rest ih =>
    obtain ⟨first, others⟩ := List.pairwise_cons.1 h
    rcases List.mem_cons.1 hm with rfl | hm
    · simp [lookup]
    · have above := first _ hm
      have hk : k ≠ e.1 := by rintro rfl; simp at above
      simp [lookup, hk, ih others hm]

/-- A pair stands in a table just when its key looks up its value. -/
theorem mem_toList_iff (t : Table κ α) (k : κ) (v : α) :
    (k, v) ∈ t.toList ↔ t.get? k = some v :=
  ⟨lookup_of_mem t.ascending, mem_of_lookup⟩

theorem ext_entries [Std.TransOrd κ] {l m : List (κ × α)}
    (hl : l.Pairwise fun a b => compare a.1 b.1 = .lt)
    (hm : m.Pairwise fun a b => compare a.1 b.1 = .lt)
    (h : ∀ x, x ∈ l ↔ x ∈ m) : l = m := by
  induction l generalizing m with
  | nil => cases m with
    | nil => rfl
    | cons y ys => exact absurd ((h y).2 (by simp)) (by simp)
  | cons x xs ih => cases m with
    | nil => exact absurd ((h x).1 (by simp)) (by simp)
    | cons y ys =>
      obtain ⟨hx, hxs⟩ := List.pairwise_cons.1 hl
      obtain ⟨hy, hys⟩ := List.pairwise_cons.1 hm
      have noLoop {a : κ × α} : compare a.1 a.1 ≠ .lt := by simp
      have heads : x = y := by
        rcases List.mem_cons.1 ((h x).1 (by simp)) with e | xLater
        · exact e
        rcases List.mem_cons.1 ((h y).2 (by simp)) with e | yLater
        · exact e.symm
        exact absurd (Std.TransCmp.lt_trans (hx y yLater) (hy x xLater)) noLoop
      subst heads
      congr 1
      refine ih hxs hys fun z => ?_
      have := h z
      simp only [List.mem_cons] at this
      constructor
      · intro hz
        rcases this.1 (.inr hz) with rfl | hz'
        · exact absurd (hx z hz) noLoop
        · exact hz'
      · intro hz
        rcases this.2 (.inr hz) with rfl | hz'
        · exact absurd (hy z hz) noLoop
        · exact hz'

/-- Look-ups determine a table. -/
@[ext]
theorem ext [Std.TransOrd κ] {s t : Table κ α} (h : ∀ k, s.get? k = t.get? k) :
    s = t := by
  have same : s.entries = t.entries := by
    refine ext_entries s.ascending t.ascending fun ⟨k, v⟩ => ?_
    have hs := mem_toList_iff s k v
    have ht := mem_toList_iff t k v
    rw [toList] at hs ht
    rw [hs, ht, h]
  cases s; cases t; simp_all

/-! ## Listings -/

theorem mem_keys_iff (t : Table κ α) (k : κ) :
    k ∈ t.keys ↔ (t.get? k).isSome = true := by
  rw [keys, List.mem_map, Option.isSome_iff_exists]
  constructor
  · rintro ⟨⟨k', v⟩, hmem, rfl⟩
    exact ⟨v, (mem_toList_iff t k' v).1 hmem⟩
  · rintro ⟨v, hv⟩
    exact ⟨(k, v), (mem_toList_iff t k v).2 hv, rfl⟩

theorem mem_values_iff (t : Table κ α) (v : α) :
    v ∈ t.values ↔ ∃ k, t.get? k = some v := by
  rw [values, List.mem_map]
  constructor
  · rintro ⟨⟨k, v'⟩, hmem, rfl⟩
    exact ⟨k, (mem_toList_iff t k v').1 hmem⟩
  · rintro ⟨k, hk⟩
    exact ⟨(k, v), (mem_toList_iff t k v).2 hk, rfl⟩

theorem nodup_toList (t : Table κ α) : t.toList.Nodup := by
  refine t.ascending.imp fun {a b} hlt => ?_
  rintro rfl
  simp at hlt

theorem erase_of_get?_eq_none [Std.TransOrd κ] [DecidableEq κ] {t : Table κ α}
    {k : κ} (hk : t.get? k = none) : t.erase k = t := by
  ext k'
  rw [get?_erase]
  split
  next same => rw [same, hk]
  next => rfl

theorem erase_insert [Std.TransOrd κ] [DecidableEq κ] (t : Table κ α) (k : κ)
    (v : α) :
    (t.insert k v).erase k = t.erase k := by
  ext k'
  simp only [get?_erase, get?_insert]
  split <;> rfl

/-- A table is one of its pairs and the table without that pair, in some
order. -/
theorem toList_perm_of_get? [DecidableEq κ] {t : Table κ α} {k : κ} {v : α}
    (hk : t.get? k = some v) :
    t.toList.Perm ((k, v) :: (t.erase k).toList) := by
  have hnew : (k, v) ∉ (t.erase k).toList := by
    rw [mem_toList_iff, get?_erase]
    simp
  refine (List.perm_ext_iff_of_nodup t.nodup_toList
    (List.nodup_cons.2 ⟨hnew, nodup_toList _⟩)).2 fun ⟨k', v'⟩ => ?_
  rw [List.mem_cons, mem_toList_iff, mem_toList_iff, get?_erase]
  by_cases h : k' = k
  · subst h
    simp [hk, eq_comm]
  · simp [h]

theorem values_perm_of_get? [DecidableEq κ] {t : Table κ α} {k : κ} {v : α}
    (hk : t.get? k = some v) : t.values.Perm (v :: (t.erase k).values) :=
  (toList_perm_of_get? hk).map Prod.snd

theorem values_insert_perm [Std.TransOrd κ] [DecidableEq κ] (t : Table κ α)
    (k : κ) (v : α) :
    (t.insert k v).values.Perm (v :: (t.erase k).values) := by
  have hk : (t.insert k v).get? k = some v := by simp
  have hperm := values_perm_of_get? hk
  rwa [erase_insert] at hperm

/-! ## Tables of pairs -/

theorem get?_foldl_insert_of_not_mem [Std.TransOrd κ] [DecidableEq κ]
    {pairs : List (κ × α)} {k : κ} (hk : k ∉ pairs.map Prod.fst)
    (t : Table κ α) :
    (pairs.foldl (fun t e => t.insert e.1 e.2) t).get? k = t.get? k := by
  induction pairs generalizing t with
  | nil => rfl
  | cons e rest ih =>
    simp only [List.map_cons, List.mem_cons, not_or] at hk
    rw [List.foldl_cons, ih hk.2, get?_insert, if_neg hk.1]

theorem get?_foldl_insert_of_mem [Std.TransOrd κ] [DecidableEq κ]
    {pairs : List (κ × α)} (hnodup : (pairs.map Prod.fst).Nodup) {k : κ} {v : α}
    (hmem : (k, v) ∈ pairs) (t : Table κ α) :
    (pairs.foldl (fun t e => t.insert e.1 e.2) t).get? k = some v := by
  induction pairs generalizing t with
  | nil => cases hmem
  | cons e rest ih =>
    obtain ⟨hfirst, hrest⟩ := List.nodup_cons.1 hnodup
    rw [List.foldl_cons]
    rcases List.mem_cons.1 hmem with rfl | hlater
    · rw [get?_foldl_insert_of_not_mem hfirst, get?_insert, if_pos rfl]
    · exact ih hrest hlater _

theorem nodup_keys (t : Table κ α) : t.keys.Nodup := by
  refine List.pairwise_map.2 (t.ascending.imp fun {a b} hlt => ?_)
  intro same
  rw [same] at hlt
  simp at hlt

/-- The pairs of a table make up the table, in whatever order they come. -/
theorem ofList_of_perm [Std.TransOrd κ] [DecidableEq κ] {pairs : List (κ × α)}
    {t : Table κ α} (hperm : pairs.Perm t.toList) : ofList pairs = t := by
  have hkeys : (pairs.map Prod.fst).Perm t.keys := hperm.map Prod.fst
  have hnodup : (pairs.map Prod.fst).Nodup := hkeys.nodup_iff.2 t.nodup_keys
  ext k
  cases hk : t.get? k with
  | some v =>
    rw [ofList, get?_foldl_insert_of_mem hnodup
      (hperm.mem_iff.2 ((mem_toList_iff t k v).2 hk))]
  | none =>
    have hmissing : k ∉ pairs.map Prod.fst := by
      rw [hkeys.mem_iff, mem_keys_iff, hk]
      simp
    rw [ofList, get?_foldl_insert_of_not_mem hmissing, get?_empty]

theorem eq_append_of_get?_foldl_insert [Std.TransOrd κ] [DecidableEq κ]
    {pairs : List (κ × α)} {t : Table κ α} {k : κ} {v : α}
    (hk : (pairs.foldl (fun t e => t.insert e.1 e.2) t).get? k = some v) :
    (∃ before after, pairs = before ++ (k, v) :: after ∧
      k ∉ after.map Prod.fst) ∨
      k ∉ pairs.map Prod.fst ∧ t.get? k = some v := by
  induction pairs generalizing t with
  | nil => exact .inr ⟨by simp, hk⟩
  | cons e rest ih =>
    rcases ih hk with ⟨before, after, rfl, hlast⟩ | ⟨hrest, hplaced⟩
    · exact .inl ⟨e :: before, after, rfl, hlast⟩
    · rw [get?_insert] at hplaced
      split at hplaced
      next same =>
        cases hplaced
        exact .inl ⟨[], rest, by rw [same]; rfl, hrest⟩
      next other =>
        refine .inr ⟨?_, hplaced⟩
        rw [List.map_cons, List.mem_cons, not_or]
        exact ⟨other, hrest⟩

/-- Of several pairs with one key the last counts. -/
theorem get?_ofList_eq_some_iff [Std.TransOrd κ] [DecidableEq κ]
    {pairs : List (κ × α)} {k : κ} {v : α} : (ofList pairs).get? k = some v ↔
      ∃ before after, pairs = before ++ (k, v) :: after ∧
        k ∉ after.map Prod.fst := by
  constructor
  · intro hk
    exact (eq_append_of_get?_foldl_insert hk).resolve_right (by simp)
  · rintro ⟨before, after, rfl, hlast⟩
    rw [ofList, List.foldl_append, List.foldl_cons,
      get?_foldl_insert_of_not_mem hlast, get?_insert, if_pos rfl]

end Lawful

section Pairs

variable [Std.TransOrd κ]

theorem mem_of_mem_foldl_insert {pairs : List (κ × α)} {t : Table κ α}
    {e : κ × α}
    (he : e ∈ (pairs.foldl (fun t e => t.insert e.1 e.2) t).toList) :
    e ∈ t.toList ∨ e ∈ pairs := by
  induction pairs generalizing t with
  | nil => exact .inl he
  | cons first rest ih =>
    rcases ih he with hplaced | hrest
    · rcases mem_place hplaced with rfl | hbefore
      · exact .inr (by simp)
      · exact .inl hbefore
    · exact .inr (List.mem_cons_of_mem _ hrest)

/-- A table holds no other pairs than those of the list that it is made of. -/
theorem mem_of_mem_ofList {pairs : List (κ × α)} {e : κ × α}
    (he : e ∈ (ofList pairs).toList) :
    e ∈ pairs :=
  (mem_of_mem_foldl_insert he).resolve_left (by simp [toList, empty])

omit [Std.TransOrd κ] in
theorem length_place_le (k : κ) (v : α) (l : List (κ × α)) :
    (place k v l).length ≤ l.length + 1 := by
  induction l with
  | nil => simp [place]
  | cons e rest ih =>
    unfold place
    split <;> simp
    exact ih

theorem size_foldl_insert_le (pairs : List (κ × α)) (t : Table κ α) :
    (pairs.foldl (fun t e => t.insert e.1 e.2) t).size ≤
      t.size + pairs.length := by
  induction pairs generalizing t with
  | nil => simp
  | cons first rest ih =>
    have hplace := length_place_le first.1 first.2 t.entries
    have hrest := ih (t.insert first.1 first.2)
    simp only [size, insert] at hplace hrest ⊢
    rw [List.foldl_cons, List.length_cons]
    exact Nat.le_trans hrest (by omega)

theorem size_ofList_le (pairs : List (κ × α)) :
    (ofList pairs).size ≤ pairs.length := by
  have hsize := size_foldl_insert_le pairs empty
  rwa [show (empty : Table κ α).size = 0 from rfl, Nat.zero_add] at hsize

end Pairs

end Redelivery.Table
