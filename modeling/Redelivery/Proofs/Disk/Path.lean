import Redelivery.Disk.Path

/-!
# Ways down from the root

A path that starts at the root and never goes up leads to a place by the names
on its way, however it is spelled.  The path of the directory around a file and
those of its neighbours keep the spelling, and their names are known from the
names of the file.
-/

namespace Redelivery

@[simp]
def Component.name? : Component → Option String
  | name text => some text
  | _ => none

namespace Path

def names (p : Path) : List String :=
  p.components.filterMap Component.name?

/-- The path starts at the root and never goes up. -/
structure Descends (p : Path) : Prop where
  rooted : p.isAbsolute = true
  straight : .parent ∉ p.components

/-- A text that is read as a name when it stands between slashes. -/
structure Plain (text : String) : Prop where
  unslashed : '/' ∉ text.toList
  read : component? text.toList = some (.name text)

variable {p : Path} {text : String}

/-! ## Stretches between slashes -/

theorem segments_ne_nil (chars : List Char) : segments chars ≠ [] := by
  cases chars with
  | nil => simp [segments]
  | cons c rest =>
    rw [segments]
    split
    next => simp
    next => split <;> simp

theorem segments_of_unslashed {chars : List Char} (hchars : '/' ∉ chars) :
    segments chars = [chars] := by
  induction chars with
  | nil => rfl
  | cons c rest ih =>
    obtain ⟨hc, hrest⟩ := not_or.1 (mt List.mem_cons.2 hchars)
    rw [segments, if_neg fun same => hc same.symm, ih hrest]

theorem segments_append_slash (chars rest : List Char) :
    segments (chars ++ '/' :: rest) = segments chars ++ segments rest := by
  induction chars with
  | nil => simp [segments]
  | cons c others ih =>
    rw [List.cons_append, segments, segments]
    split
    next => rw [ih, List.cons_append]
    next =>
      rw [ih]
      cases hothers : segments others with
      | nil => exact absurd hothers (segments_ne_nil others)
      | cons s later => rfl

theorem segments_intercalate {stretches : List (List Char)}
    (hstretches : ∀ s ∈ stretches, '/' ∉ s) (hsome : stretches ≠ []) :
    segments (['/'].intercalate stretches) = stretches := by
  induction stretches with
  | nil => exact absurd rfl hsome
  | cons first rest ih =>
    have hfirst := segments_of_unslashed (hstretches first List.mem_cons_self)
    cases rest with
    | nil => simpa using hfirst
    | cons second others =>
      rw [List.intercalate_cons_cons, List.append_assoc, List.singleton_append,
        segments_append_slash, hfirst, List.singleton_append,
        ih (fun s hs => hstretches s (List.mem_cons_of_mem _ hs)) (by simp)]

theorem unslashed_of_mem_segments {chars s : List Char}
    (hs : s ∈ segments chars) : '/' ∉ s := by
  induction chars generalizing s with
  | nil => simp_all [segments]
  | cons c rest ih =>
    rw [segments] at hs
    split at hs
    next =>
      rcases List.mem_cons.1 hs with rfl | hlater
      · simp
      · exact ih hlater
    next hc =>
      split at hs
      next hnone => exact absurd hnone (segments_ne_nil rest)
      next first others hrest =>
        rcases List.mem_cons.1 hs with rfl | hlater
        · have hfirst := ih (s := first) (by simp [hrest])
          simpa [hfirst] using fun same : '/' = c => hc same.symm
        · exact ih (by simp [hrest, hlater])

/-! ## Parts -/

theorem component?_eq_some {s : List Char} {c : Component}
    (hc : component? s = some c) :
    s ≠ [] ∧ s ≠ ['.'] ∧
      (s = ['.', '.'] ∧ c = .parent ∨
        s ≠ ['.', '.'] ∧ c = .name (String.ofList s)) := by
  unfold component? at hc
  split at hc
  next => cases hc
  next hdots =>
    obtain ⟨hnonempty, hdot⟩ : s ≠ [] ∧ s ≠ ['.'] := by simpa using hdots
    refine ⟨hnonempty, hdot, ?_⟩
    split at hc
    next hup =>
      cases hc
      exact .inl ⟨hup, rfl⟩
    next hup =>
      cases hc
      exact .inr ⟨hup, rfl⟩

theorem component?_eq_none {s : List Char} (hnone : component? s = none) :
    s = [] ∨ s = ['.'] := by
  unfold component? at hnone
  split at hnone
  next hdots => simpa using hdots
  next => split at hnone <;> cases hnone

/-- The parts that stand between the slashes. -/
def parts (p : Path) : List Component :=
  (segments p.text.toList).filterMap component?

theorem ne_of_mem_parts {c : Component} (hc : c ∈ p.parts) :
    c ≠ .root ∧ c ≠ .current := by
  obtain ⟨s, _, hs⟩ := List.mem_filterMap.1 hc
  obtain ⟨_, _, ⟨_, rfl⟩ | ⟨_, rfl⟩⟩ := component?_eq_some hs <;> simp

theorem components_eq (p : Path) : p.components =
    match segments p.text.toList with
    | [] :: _ :: _ => .root :: p.parts
    | ['.'] :: _ => .current :: p.parts
    | _ => p.parts := rfl

theorem components_of_slash {rest : List Char}
    (htext : p.text.toList = '/' :: rest) :
    p.components = .root :: p.parts := by
  rw [components_eq, htext, segments, if_pos rfl]
  cases hrest : segments rest with
  | nil => exact absurd hrest (segments_ne_nil rest)
  | cons s others => rfl

theorem parts_of_slash {rest : List Char}
    (htext : p.text.toList = '/' :: rest) :
    p.parts = (segments rest).filterMap component? := by
  rw [parts, htext, segments, if_pos rfl, List.filterMap_cons_none rfl]

/-- A path from the root starts with a slash, and its first part is the root. -/
theorem Descends.starts (hp : p.Descends) :
    (∃ rest, p.text.toList = '/' :: rest) ∧
    p.components = .root :: p.parts := by
  have hhead : p.components.head? = some .root := by
    simpa [isAbsolute] using hp.rooted
  rw [components_eq] at hhead ⊢
  split at hhead
  next first others hsegments =>
    refine ⟨?_, rfl⟩
    cases hchars : p.text.toList with
    | nil => simp [hchars, segments] at hsegments
    | cons c rest =>
      rw [hchars, segments] at hsegments
      split at hsegments
      next hslash => exact ⟨rest, by rw [hslash]⟩
      next => split at hsegments <;> cases hsegments
  next => cases hhead
  next =>
    obtain ⟨later, hparts⟩ := List.head?_eq_some_iff.1 hhead
    have hfirst : Component.root ∈ p.parts := by simp [hparts]
    exact absurd rfl (ne_of_mem_parts hfirst).1

theorem map_filterMap_name? {parts : List Component}
    (hparts : ∀ c ∈ parts, ∃ text, c = .name text) :
    (parts.filterMap Component.name?).map .name = parts := by
  induction parts with
  | nil => rfl
  | cons first rest ih =>
    obtain ⟨text, rfl⟩ := hparts first List.mem_cons_self
    have hrest := ih fun c hc => hparts c (List.mem_cons_of_mem _ hc)
    simp [hrest]

theorem Descends.parts_eq (hp : p.Descends) : p.parts = p.names.map .name := by
  have hroot := hp.starts.2
  have hparts : ∀ c ∈ p.parts, ∃ text, c = .name text := by
    intro c hc
    obtain ⟨hnotRoot, hnotCurrent⟩ := ne_of_mem_parts hc
    cases c with
    | name text => exact ⟨text, rfl⟩
    | root => exact absurd rfl hnotRoot
    | current => exact absurd rfl hnotCurrent
    | parent =>
      refine absurd ?_ hp.straight
      rw [hroot]
      exact List.mem_cons_of_mem _ hc
  rw [names, hroot, List.filterMap_cons_none rfl, map_filterMap_name? hparts]

/-- A path from the root whose parts are names descends by these. -/
theorem descends_of_parts {rest : List Char} {names : List String}
    (htext : p.text.toList = '/' :: rest) (hparts : p.parts = names.map .name) :
    p.Descends ∧ p.names = names := by
  have hall : p.components = .root :: names.map .name := by
    rw [components_of_slash htext, hparts]
  refine ⟨⟨by simp [isAbsolute, hall], by simp [hall]⟩, ?_⟩
  rw [Path.names, hall, List.filterMap_cons_none rfl, List.filterMap_map]
  exact List.filterMap_some

theorem plain_of_mem_names {name : String} (hname : name ∈ p.names) :
    Plain name := by
  obtain ⟨c, hc, hname⟩ := List.mem_filterMap.1 hname
  have hpart : c ∈ p.parts := by
    rw [components_eq] at hc
    split at hc
    · rcases List.mem_cons.1 hc with rfl | hlater
      · cases hname
      · exact hlater
    · rcases List.mem_cons.1 hc with rfl | hlater
      · cases hname
      · exact hlater
    · exact hc
  obtain ⟨s, hs, hread⟩ := List.mem_filterMap.1 hpart
  obtain ⟨_, _, ⟨_, rfl⟩ | ⟨_, rfl⟩⟩ := component?_eq_some hread
  · cases hname
  · cases hname
    refine ⟨?_, ?_⟩
    · simpa using unslashed_of_mem_segments hs
    · simpa using hread

/-! ## Longer names -/

theorem Plain.append (hplain : Plain text) {start : String}
    (hstart : '/' ∉ start.toList) (hlong : 2 < start.length) :
    Plain (start ++ text) where
  unslashed := by simp [hstart, hplain.unslashed]
  read := by
    have hlength : 2 < (start ++ text).toList.length := by
      rw [String.length_toList, String.length_append]
      omega
    unfold component?
    rw [if_neg, if_neg, String.ofList_toList]
    · intro hdots
      simp [hdots] at hlength
    · intro hdots
      rcases Bool.or_eq_true_iff.1 hdots with hnone | hdot
      · simp [of_decide_eq_true hnone] at hlength
      · simp [of_decide_eq_true hdot] at hlength

/-! ## Neighbours -/

theorem getLast?_root_append (init : List Component) (last : Component) :
    (Component.root :: (init ++ [last])).getLast? = some last := by
  rw [← List.cons_append, List.getLast?_concat]

theorem Descends.getLast?_eq (hp : p.Descends) :
    p.components.getLast? = some (p.names.getLast?.elim .root .name) := by
  rw [hp.starts.2, hp.parts_eq]
  rcases p.names.eq_nil_or_concat with hnone | ⟨init, last, hnames⟩
  · simp [hnone]
  · simp [hnames, getLast?_root_append]

theorem Descends.fileName?_eq (hp : p.Descends) :
    p.fileName? = p.names.getLast? := by
  rw [fileName?, hp.getLast?_eq]
  cases p.names.getLast? <;> rfl

/-- The stretches of a path with a name after it. -/
theorem Descends.segments_push (hp : p.Descends) {name : String}
    (hname : '/' ∉ name.toList) :
    ∃ kept, (segments p.text.toList = kept ∨
      segments p.text.toList = kept ++ [[]]) ∧
      segments (p.push name).text.toList = kept ++ [name.toList] := by
  obtain ⟨⟨rest, htext⟩, -⟩ := hp.starts
  have hlast := segments_of_unslashed hname
  rw [push]
  split
  next hnone => simp [htext] at hnone
  next hslash =>
    obtain ⟨init, hinit⟩ := List.getLast?_eq_some_iff.1 hslash
    refine ⟨segments init, .inr ?_, ?_⟩
    · rw [hinit, segments_append_slash]
      rfl
    · rw [String.toList_append, hinit, List.append_assoc, List.singleton_append,
        segments_append_slash, hlast]
  next =>
    refine ⟨segments p.text.toList, .inl rfl, ?_⟩
    have hslash : "/".toList = ['/'] := rfl
    rw [String.toList_append, String.toList_append, hslash, List.append_assoc,
      List.singleton_append, segments_append_slash, hlast]

theorem text_push (p : Path) (name : String) :
    ∃ rest, (p.push name).text = p.text ++ rest := by
  rw [push]
  split
  · exact ⟨name, rfl⟩
  · exact ⟨name, rfl⟩
  · exact ⟨"/" ++ name, String.append_assoc⟩

/-- A name after a path is one more name on the way. -/
theorem Descends.push (hp : p.Descends) {name : String} (hname : Plain name) :
    (p.push name).Descends ∧ (p.push name).names = p.names ++ [name] := by
  obtain ⟨⟨rest, htext⟩, -⟩ := hp.starts
  obtain ⟨more, hmore⟩ := text_push p name
  have hstarts : (p.push name).text.toList = '/' :: (rest ++ more.toList) := by
    rw [hmore, String.toList_append, htext, List.cons_append]
  refine descends_of_parts hstarts ?_
  obtain ⟨kept, hbefore, hafter⟩ := hp.segments_push hname.unslashed
  have hkept : kept.filterMap component? = p.parts := by
    rcases hbefore with hsame | hslash
    · rw [parts, hsame]
    · rw [parts, hslash, List.filterMap_append, List.filterMap_cons_none rfl]
      simp
  rw [parts, hafter, List.filterMap_append, hkept, hp.parts_eq, List.map_append,
    List.filterMap_cons_some hname.read]
  rfl

theorem mem_of_mem_trim {stretches : List (List Char)} {s : List Char}
    (hs : s ∈ trim stretches) : s ∈ stretches := by
  rw [trim, List.mem_reverse] at hs
  exact List.mem_reverse.1 ((List.dropWhile_sublist _).subset hs)

/-- The last of the stretches that are kept stands for a part. -/
theorem trim_eq_nil_or_concat (stretches : List (List Char)) :
    trim stretches = [] ∨
      ∃ init last c, trim stretches = init ++ [last] ∧
        component? last = some c := by
  rw [trim]
  cases hkept : stretches.reverse.dropWhile fun s => (component? s).isNone with
  | nil => exact .inl rfl
  | cons last rest =>
    have hlast : (component? last).isNone = false := by
      have hhead := List.head?_dropWhile_not
        (fun s => (component? s).isNone) stretches.reverse
      rw [hkept] at hhead
      simpa using hhead
    obtain ⟨c, hc⟩ := Option.isSome_iff_exists.1 (by simpa using hlast)
    exact .inr ⟨rest.reverse, last, c, by simp, hc⟩

theorem filterMap_trim (stretches : List (List Char)) :
    (trim stretches).filterMap component? = stretches.filterMap component? := by
  have hdrop : ∀ kept : List (List Char),
      (kept.dropWhile fun s => (component? s).isNone).filterMap component? =
        kept.filterMap component? := by
    intro kept
    induction kept with
    | nil => rfl
    | cons s rest ih =>
      rw [List.dropWhile_cons]
      split
      next hnone =>
        rw [List.filterMap_cons_none (Option.isNone_iff_eq_none.1 hnone)]
        exact ih
      next => rfl
  rw [trim, List.filterMap_reverse, hdrop, ← List.filterMap_reverse,
    List.reverse_reverse]

theorem spelled_starts (stretches : List (List Char)) :
    ∃ rest, (spelled ([] :: stretches)).text.toList = '/' :: rest := by
  cases stretches with
  | nil => exact ⟨[], rfl⟩
  | cons s others =>
    refine ⟨['/'].intercalate (s :: others), ?_⟩
    rw [spelled, if_neg (by simp), String.toList_ofList,
      List.intercalate_cons_cons]
    rfl

theorem parts_spelled {stretches : List (List Char)}
    (hstretches : ∀ s ∈ stretches, '/' ∉ s) :
    (spelled ([] :: stretches)).parts = stretches.filterMap component? := by
  cases stretches with
  | nil => decide
  | cons s others =>
    have hall : ∀ t ∈ [] :: s :: others, '/' ∉ t :=
      List.forall_mem_cons.2 ⟨by simp, hstretches⟩
    rw [parts, spelled, if_neg (by simp), String.toList_ofList,
      segments_intercalate hall (by simp), List.filterMap_cons_none rfl]

/-- A path without its last part is one that descends by the names before the
last. -/
theorem Descends.parent?_cases (hp : p.Descends) :
    (p.names = [] ∧ p.parent? = none) ∨
      ∃ parent, p.parent? = some parent ∧ parent.Descends ∧
        ∃ last, p.names = parent.names ++ [last] := by
  obtain ⟨⟨rest, htext⟩, -⟩ := hp.starts
  have hlast := hp.getLast?_eq
  rcases p.names.eq_nil_or_concat with hnone | ⟨init, last, hnames⟩
  · rw [hnone] at hlast
    exact .inl ⟨hnone, by rw [parent?, hlast]; rfl⟩
  · rw [List.concat_eq_append] at hnames
    have hparts : (trim (segments rest)).filterMap component? =
        init.map .name ++ [.name last] := by
      rw [filterMap_trim, ← parts_of_slash htext, hp.parts_eq, hnames,
        List.map_append]
      rfl
    rcases trim_eq_nil_or_concat (segments rest) with htrim |
      ⟨before, s, c, htrim, hc⟩
    · simp [htrim] at hparts
    · rw [htrim, List.filterMap_append, List.filterMap_cons_some hc] at hparts
      have hbefore : before.filterMap component? = init.map .name :=
        List.append_inj_left' hparts rfl
      have hparent : p.parent? = some (spelled ([] :: trim before)) := by
        rw [parent?, hlast, hnames, List.getLast?_concat, htext, segments,
          if_pos rfl]
        simp [htrim]
      have hunslashed : ∀ t ∈ trim before, '/' ∉ t := by
        intro t ht
        have hkept : t ∈ trim (segments rest) := by
          rw [htrim]
          exact List.mem_append_left _ (mem_of_mem_trim ht)
        exact unslashed_of_mem_segments (mem_of_mem_trim hkept)
      obtain ⟨later, hlater⟩ := spelled_starts (trim before)
      obtain ⟨hdescends, hbeforeNames⟩ := descends_of_parts hlater
        ((parts_spelled hunslashed).trans
          ((filterMap_trim before).trans hbefore))
      exact .inr ⟨_, hparent, hdescends, last, by rw [hbeforeNames, hnames]⟩

/-- What a path lies in descends by the first of its names. -/
theorem descends_of_mem_ancestorsUpTo {count : Nat} (hp : p.Descends)
    {outer : Path} (houter : outer ∈ ancestorsUpTo count p) :
    outer.Descends ∧ outer.names <+: p.names := by
  induction count generalizing p with
  | zero => cases houter
  | succ count ih =>
    rw [ancestorsUpTo] at houter
    rcases hp.parent?_cases with ⟨_, hnone⟩ |
      ⟨parent, hparent, hdescends, last, hnames⟩
    · rw [hnone] at houter
      cases houter
    · rw [hparent] at houter
      rcases List.mem_cons.1 houter with rfl | hlater
      · exact ⟨hp, List.prefix_rfl⟩
      · obtain ⟨houterDescends, hbefore⟩ := ih hdescends hlater
        exact ⟨houterDescends, hbefore.trans (hnames ▸ List.prefix_append _ _)⟩

/-- Another name at the end of a path stands after the names before the last. -/
theorem Descends.withFileName (hp : p.Descends) {name : String}
    (hname : Plain name) :
    (p.withFileName name).Descends ∧
      (p.withFileName name).names = p.names.dropLast ++ [name] := by
  rw [Path.withFileName, hp.fileName?_eq]
  rcases hp.parent?_cases with ⟨hnone, _⟩ |
    ⟨parent, hparent, hdescends, last, hnames⟩
  · have hpush := hp.push hname
    rw [hnone] at hpush ⊢
    exact hpush
  · rw [hnames, hparent, List.getLast?_concat, List.dropLast_concat]
    exact hdescends.push hname

end Path

end Redelivery
