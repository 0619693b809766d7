import Redelivery.Proofs.Disk.Path

/-!
# Spellings of a path

A path is spelled with slashes, dots and names, and many spellings mean the same
way.  What they have in common is whether they start at the root, and what
stands between their slashes apart from dots and from nothing at all.  The parts
of a path are told by these two alone, but for a dot at the start of a path that
does not start at the root.
-/

namespace Redelivery

namespace Path

/-- The path is spelled from the root on. -/
def Rooted (p : Path) : Prop :=
  p.text.toList.head? = some '/'

instance (p : Path) : Decidable p.Rooted :=
  inferInstanceAs (Decidable (_ = _))

/-- What stands between the slashes, without single dots and empty stretches. -/
def way (p : Path) : List String :=
  ((p.text.toList.splitOn '/').filter fun s => s ≠ [] ∧ s ≠ ['.']).map
    String.ofList

def ofStep (step : String) : Component :=
  if step = ".." then .parent else .name step

variable {p q : Path}

/-! ## Parts and steps -/

theorem segments_eq_splitOn (chars : List Char) :
    segments chars = chars.splitOn '/' := by
  induction chars with
  | nil => rfl
  | cons c rest ih =>
    rw [segments, List.splitOn_cons_eq_if_modifyHead, ih]
    by_cases hc : c = '/'
    · rw [if_pos hc, if_pos (by simpa using hc)]
    · rw [if_neg hc, if_neg (by simpa using hc)]
      cases hrest : rest.splitOn '/' with
      | nil => exact absurd hrest (List.splitOn_ne_nil _ _)
      | cons s others => rfl

theorem component?_eq (s : List Char) :
    component? s = if s ≠ [] ∧ s ≠ ['.'] then some (ofStep (String.ofList s))
      else none := by
  have hup : String.ofList s = ".." ↔ s = ['.', '.'] := by
    rw [← String.toList_inj, String.toList_ofList]
    rfl
  by_cases hs : s ≠ [] ∧ s ≠ ['.']
  · rw [component?, if_neg (by simpa using hs), if_pos hs, ofStep,
      apply_ite some]
    simp only [hup]
  · have hdots : s = [] ∨ s = ['.'] :=
      Decidable.or_iff_not_imp_left.2 (by simpa using hs)
    rw [component?, if_pos (by simpa using hdots), if_neg hs]

theorem parts_eq (p : Path) : p.parts = p.way.map ofStep := by
  rw [parts, way, ← segments_eq_splitOn, List.map_map]
  induction segments p.text.toList with
  | nil => rfl
  | cons s rest ih =>
    by_cases hs : s ≠ [] ∧ s ≠ ['.']
    · rw [List.filterMap_cons_some (by rw [component?_eq, if_pos hs]), ih,
        List.filter_cons_of_pos (by simpa using hs), List.map_cons]
      rfl
    · rw [List.filterMap_cons_none (by rw [component?_eq, if_neg hs]), ih,
        List.filter_cons_of_neg (by simpa using hs)]

theorem components_of_rooted (hp : p.Rooted) :
    p.components = .root :: p.way.map ofStep := by
  obtain ⟨rest, htext⟩ := List.head?_eq_some_iff.1 hp
  rw [components_eq, parts_eq, htext, segments, if_pos rfl]
  cases hrest : segments rest with
  | nil => exact absurd hrest (segments_ne_nil rest)
  | cons s others => rfl

theorem components_of_not_rooted (hp : ¬p.Rooted) :
    p.components = p.way.map ofStep ∨
    p.components = .current :: p.way.map ofStep := by
  rw [components_eq, parts_eq]
  split
  next first others hsegments =>
    refine absurd ?_ hp
    cases htext : p.text.toList with
    | nil => simp [htext, segments] at hsegments
    | cons c rest =>
      by_cases hc : c = '/'
      · rw [Rooted, htext, hc, List.head?_cons]
      · rw [htext, segments, if_neg hc] at hsegments
        split at hsegments <;> cases hsegments
  next => exact .inr rfl
  next => exact .inl rfl

theorem isAbsolute_iff : p.isAbsolute = true ↔ p.Rooted := by
  have hsteps : .root ∉ p.way.map ofStep := by
    rw [← parts_eq]
    exact fun hroot => (ne_of_mem_parts hroot).1 rfl
  rw [isAbsolute, beq_iff_eq]
  by_cases hp : p.Rooted
  · rw [components_of_rooted hp, List.head?_cons]
    exact iff_of_true rfl hp
  · refine iff_of_false ?_ hp
    intro hhead
    have hroot : .root ∈ p.components := List.mem_of_head? hhead
    rcases components_of_not_rooted hp with hall | hall <;> rw [hall] at hroot
    · exact hsteps hroot
    · exact hsteps (by simpa using hroot)

theorem ofStep_eq_parent_iff {step : String} :
    ofStep step = .parent ↔ step = ".." := by
  simp [ofStep]

theorem parent_mem_components_iff : .parent ∈ p.components ↔ ".." ∈ p.way := by
  have hsteps : .parent ∈ p.way.map ofStep ↔ ".." ∈ p.way := by
    simp [List.mem_map, ofStep_eq_parent_iff]
  by_cases hp : p.Rooted
  · simp [components_of_rooted hp, hsteps]
  · rcases components_of_not_rooted hp with hall | hall <;> simp [hall, hsteps]

theorem ofStep_injective (one other : String)
    (hsame : ofStep one = ofStep other) :
    one = other := by
  by_cases hup : other = ".."
  · rw [hup, ← ofStep_eq_parent_iff, hsame, ofStep_eq_parent_iff, hup]
  · have hone : one ≠ ".." := by
      rw [Ne, ← ofStep_eq_parent_iff, hsame, ofStep_eq_parent_iff]
      exact hup
    rw [ofStep, ofStep, if_neg hone, if_neg hup] at hsame
    exact Component.name.inj hsame

/-- Between paths from the root, to begin with all parts is to begin with all
steps. -/
theorem startsWith_iff (hp : p.Rooted) (hq : q.Rooted) :
    p.startsWith q = true ↔ q.way <+: p.way := by
  rw [startsWith, List.isPrefixOf_iff_prefix, components_of_rooted hp,
    components_of_rooted hq, List.cons_prefix_cons, and_iff_right rfl,
    List.prefix_map_iff]
  constructor
  · rintro ⟨start, hstart, hsame⟩
    rwa [(List.map_inj_right ofStep_injective).1 hsame]
  · intro hstart
    exact ⟨q.way, hstart, rfl⟩

/-! ## Paths that never go up -/

theorem filterMap_name?_ofStep {steps : List String}
    (hstraight : ".." ∉ steps) :
    (steps.map ofStep).filterMap Component.name? = steps := by
  induction steps with
  | nil => rfl
  | cons step rest ih =>
    obtain ⟨hstep, hrest⟩ := not_or.1 (mt List.mem_cons.2 hstraight)
    have hname : ofStep step = .name step := if_neg fun same => hstep same.symm
    simp [hname, ih hrest]

theorem names_eq_way (hstraight : ".." ∉ p.way) : p.names = p.way := by
  have hsteps := filterMap_name?_ofStep hstraight
  rw [names]
  by_cases hp : p.Rooted
  · rw [components_of_rooted hp, List.filterMap_cons_none rfl, hsteps]
  · rcases components_of_not_rooted hp with hall | hall
    · rw [hall, hsteps]
    · rw [hall, List.filterMap_cons_none rfl, hsteps]

theorem Descends.straight_way (hp : p.Descends) : ".." ∉ p.way :=
  mt parent_mem_components_iff.2 hp.straight

end Path

end Redelivery
