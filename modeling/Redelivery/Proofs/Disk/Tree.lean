import Redelivery.Disk.Tree
import Redelivery.Proofs.Disk.Path
import Redelivery.Table.Lemmas

/-!
# What an operation on files touches

A path that descends leads to the place of its names, and where it leads depends
on nothing but what stands on its way.  So a write, a move, a removal or a new
directory changes one place or two, and whatever is reached without coming
through these is reached as before.
-/

namespace Redelivery

/-- The stretches between slashes that are not empty. -/
def Path.steps (p : Path) : List String :=
  (segments p.text.toList).filterMap fun s =>
    if s.isEmpty then none else some (String.ofList s)

namespace Path

theorem names_of_segments {segments : List (List Char)}
    (hstraight : ['.', '.'] ∉ segments) :
    (segments.filterMap component?).filterMap Component.name? =
      (segments.filterMap fun s =>
        if s.isEmpty then none else some (String.ofList s)).filter
        (· ≠ ".") := by
  induction segments with
  | nil => rfl
  | cons s rest ih =>
    obtain ⟨hs, hrest⟩ := not_or.1 (mt List.mem_cons.2 hstraight)
    simp only [List.filterMap_cons]
    cases hread : component? s with
    | none =>
      rcases component?_eq_none hread with rfl | rfl
      · exact ih hrest
      · exact ih hrest
    | some c =>
      obtain ⟨hnonempty, hdot, ⟨hup, _⟩ | ⟨_, rfl⟩⟩ := component?_eq_some hread
      · exact absurd hup.symm hs
      · have hname : String.ofList s ≠ "." :=
          fun same => hdot (by simpa using congrArg String.toList same)
        simpa [hnonempty, hname] using ih hrest

variable {p : Path}

theorem Descends.names_eq (hp : p.Descends) :
    p.names = p.steps.filter (· ≠ ".") ∧ ".." ∉ p.steps := by
  have hroot := hp.starts.2
  have hstraight : ['.', '.'] ∉ segments p.text.toList := by
    intro hup
    refine hp.straight ?_
    rw [hroot]
    exact List.mem_cons_of_mem _ (List.mem_filterMap.2 ⟨_, hup, rfl⟩)
  refine ⟨?_, ?_⟩
  · rw [names, hroot, List.filterMap_cons_none rfl]
    exact names_of_segments hstraight
  · intro hup
    obtain ⟨s, hs, hstep⟩ := List.mem_filterMap.1 hup
    split at hstep
    next => cases hstep
    next =>
      have hdots : s = ['.', '.'] := by
        simpa using congrArg String.toList (Option.some.inj hstep)
      exact hstraight (hdots ▸ hs)

theorem Plain.toList_ne_nil {text : String} (hplain : Plain text) :
    text.toList ≠ [] := by
  intro hnone
  have hread := hplain.read
  simp [hnone, component?] at hread

/-- A name after a path is one more stretch that is not empty. -/
theorem Descends.steps_push (hp : p.Descends) {name : String}
    (hname : Plain name) :
    (p.push name).steps = p.steps ++ [name] := by
  obtain ⟨kept, hbefore, hafter⟩ := hp.segments_push hname.unslashed
  have hsteps : (kept.filterMap fun s =>
      if s.isEmpty then none else some (String.ofList s)) = p.steps := by
    rcases hbefore with hsame | hslash
    · rw [steps, hsame]
    · rw [steps, hslash, List.filterMap_append]
      simp
  rw [steps, hafter, List.filterMap_append, hsteps,
    List.filterMap_cons_some (b := name)]
  · rfl
  · simp [hname.toList_ne_nil]

end Path

namespace Disk

variable {d d' : Disk} {dir next place : Place} {segment : String}
  {segments : List String}
  {slash : Bool} {t : Target} {p : Path} {bytes : Bytes} {e : Entry}

/-! ## Entries -/

@[simp]
theorem entry?_nil (d : Disk) : d.entry? [] = some .directory := rfl

theorem entry?_put (hplace : place ≠ []) (q : Place) :
    Disk.entry? (d.put place e) q =
      if q = place then some e else d.entry? q := by
  unfold entry?
  by_cases hq : q = []
  · subst hq
    rw [if_pos rfl, if_pos rfl, if_neg hplace.symm]
  · rw [if_neg hq, if_neg hq, put, Table.get?_insert]

theorem entry?_put_of_ne (hplace : place ≠ []) {q : Place} (hq : q ≠ place) :
    Disk.entry? (d.put place e) q = d.entry? q := by
  rw [entry?_put hplace, if_neg hq]

theorem entry?_drop (hplace : place ≠ []) (q : Place) :
    Disk.entry? (d.drop place) q = if q = place then none else d.entry? q := by
  unfold entry?
  by_cases hq : q = []
  · subst hq
    rw [if_pos rfl, if_pos rfl, if_neg hplace.symm]
  · rw [if_neg hq, if_neg hq, drop, Table.get?_erase]

/-! ## Following a way down -/

/-- Where one thing after the other is done, both have been done. -/
theorem ok_of_bind {ε α β : Type} {first : Except ε α} {after : α → Except ε β}
    {b : β} (hboth : first >>= after = .ok b) :
    ∃ a, first = .ok a ∧ after a = .ok b := by
  cases first with
  | error cause => cases hboth
  | ok a => exact ⟨a, rfl, hboth⟩

theorem enter_eq_ok (hup : segment ≠ "..")
    (henter : d.enter dir segment = .ok next) :
    next = dir ++ [segment].filter (· ≠ ".") ∧
      (next = dir ∨
        next = dir ++ [segment] ∧ d.entry? next = some .directory) := by
  unfold enter at henter
  by_cases hdot : segment = "."
  · rw [if_pos hdot] at henter
    cases henter
    simp [hdot]
  · rw [if_neg hdot, if_neg hup] at henter
    split at henter
    next => cases henter
    next =>
      split at henter
      next hthere =>
        cases henter
        simp [hdot, hthere]
      next => cases henter
      next => cases henter

theorem enter_congr (hup : segment ≠ "..")
    (hsame : d'.entry? (dir ++ [segment].filter (· ≠ ".")) =
      d.entry? (dir ++ [segment].filter (· ≠ "."))) :
    d'.enter dir segment = d.enter dir segment := by
  unfold enter
  by_cases hdot : segment = "."
  · rw [if_pos hdot, if_pos hdot]
  · have hkept : [segment].filter (· ≠ ".") = [segment] := by simp [hdot]
    rw [if_neg hdot, if_neg hup, if_neg hdot, if_neg hup, ← hkept, hsame]

theorem follow_cons_cons (segment second : String) (rest : List String) :
    d.follow dir slash (segment :: second :: rest) =
      d.enter dir segment >>= fun next =>
        d.follow next slash (second :: rest) := rfl

theorem follow_last (hfollow : d.follow dir slash [segment] = .ok t)
    (hup : segment ≠ "..") :
    t.directory = dir ∧ t.place = dir ++ [segment].filter (· ≠ ".") ∧
      (t.ending = .dots ∨ t.ending = .name segment slash) := by
  unfold follow at hfollow
  by_cases hdot : segment = "."
  · rw [if_pos hdot] at hfollow
    cases hfollow
    simp [hdot, Target.place]
  · rw [if_neg hdot, if_neg hup] at hfollow
    split at hfollow
    next => cases hfollow
    next =>
      cases hfollow
      simp [hdot, Target.place]

/-- A way down ends at the names on it, and comes through the directory before
its end. -/
theorem follow_eq_ok (hstraight : ".." ∉ segments)
    (hfollow : d.follow dir slash segments = .ok t) :
    dir <+: t.directory ∧ t.place = dir ++ segments.filter (· ≠ ".") := by
  induction segments generalizing dir with
  | nil =>
    cases hfollow
    simp [Target.place]
  | cons segment rest ih =>
    obtain ⟨hup, hrest⟩ := not_or.1 (mt List.mem_cons.2 hstraight)
    cases rest with
    | nil =>
      obtain ⟨hdirectory, hplace, _⟩ := follow_last hfollow (Ne.symm hup)
      exact ⟨hdirectory ▸ List.prefix_rfl, hplace⟩
    | cons second others =>
      obtain ⟨next, henter, hthen⟩ := ok_of_bind hfollow
      obtain ⟨hbelow, hplace⟩ := ih hrest hthen
      obtain ⟨rfl, _⟩ := enter_eq_ok (Ne.symm hup) henter
      refine ⟨(List.prefix_append _ _).trans hbelow, ?_⟩
      rw [hplace, List.append_assoc, ← List.filter_append]
      rfl

theorem follow_congr (hstraight : ".." ∉ segments)
    (hsame : ∀ q, q <+: dir ++ segments.filter (· ≠ ".") →
      d'.entry? q = d.entry? q) :
    d'.follow dir slash segments = d.follow dir slash segments := by
  induction segments generalizing dir with
  | nil => rfl
  | cons segment rest ih =>
    obtain ⟨hup, hrest⟩ := not_or.1 (mt List.mem_cons.2 hstraight)
    cases rest with
    | nil => rfl
    | cons second others =>
      have hsplit : dir ++ (segment :: second :: others).filter (· ≠ ".") =
          dir ++ [segment].filter (· ≠ ".") ++
            (second :: others).filter (· ≠ ".") := by
        rw [List.append_assoc, ← List.filter_append]
        rfl
      rw [hsplit] at hsame
      rw [follow_cons_cons, follow_cons_cons,
        enter_congr (Ne.symm hup) (hsame _ (List.prefix_append _ _))]
      cases henter : d.enter dir segment with
      | error cause => rfl
      | ok next =>
        obtain ⟨rfl, _⟩ := enter_eq_ok (Ne.symm hup) henter
        exact ih hrest hsame

/-- What a way down has led to is found as long as the directories on it
stand. -/
theorem follow_of_ok (hstraight : ".." ∉ segments)
    (hfollow : d.follow dir slash segments = .ok t)
    (hsame : ∀ q, q <+: t.directory → d'.entry? q = d.entry? q) :
    d'.follow dir slash segments = .ok t := by
  induction segments generalizing dir with
  | nil => exact hfollow
  | cons segment rest ih =>
    obtain ⟨hup, hrest⟩ := not_or.1 (mt List.mem_cons.2 hstraight)
    cases rest with
    | nil => exact hfollow
    | cons second others =>
      obtain ⟨next, henter, hthen⟩ := ok_of_bind hfollow
      obtain ⟨hbelow, _⟩ := follow_eq_ok hrest hthen
      have hnext := (enter_eq_ok (Ne.symm hup) henter).1
      rw [follow_cons_cons,
        enter_congr (Ne.symm hup) (hsame _ (hnext ▸ hbelow)), henter]
      exact ih hrest hthen

/-- A way down can be followed up to anything on it. -/
theorem follow_init {last : String} (hstraight : ".." ∉ segments)
    (hfollow : d.follow dir slash (segments ++ [last]) = .ok t)
    (slash' : Bool) :
    ∃ t', d.follow dir slash' segments = .ok t' := by
  induction segments generalizing dir with
  | nil => exact ⟨_, rfl⟩
  | cons segment rest ih =>
    obtain ⟨hup, hrest⟩ := not_or.1 (mt List.mem_cons.2 hstraight)
    have hsplit : d.follow dir slash (segment :: (rest ++ [last])) =
        d.enter dir segment >>= fun next =>
          d.follow next slash (rest ++ [last]) := by
      cases rest <;> rfl
    rw [List.cons_append, hsplit] at hfollow
    obtain ⟨next, henter, hthen⟩ := ok_of_bind hfollow
    cases rest with
    | nil =>
      unfold enter at henter
      unfold follow
      by_cases hdot : segment = "."
      · rw [if_pos hdot]
        exact ⟨_, rfl⟩
      · rw [if_neg hdot, if_neg (Ne.symm hup)] at henter ⊢
        split at henter
        next => cases henter
        next hshort =>
          rw [if_neg hshort]
          exact ⟨_, rfl⟩
    | cons second others =>
      obtain ⟨t', ht'⟩ := ih hrest hthen
      refine ⟨t', ?_⟩
      rw [follow_cons_cons, henter]
      exact ht'

theorem follow_through (hstraight : ".." ∉ segments)
    (hfollow : d.follow dir slash segments = .ok t)
    (hdir : ∀ q, q <+: dir → d.entry? q = some .directory) :
    ∀ q, q <+: t.directory → d.entry? q = some .directory := by
  induction segments generalizing dir with
  | nil =>
    cases hfollow
    exact hdir
  | cons segment rest ih =>
    obtain ⟨hup, hrest⟩ := not_or.1 (mt List.mem_cons.2 hstraight)
    cases rest with
    | nil => exact (follow_last hfollow (Ne.symm hup)).1 ▸ hdir
    | cons second others =>
      obtain ⟨next, henter, hthen⟩ := ok_of_bind hfollow
      refine ih hrest hthen fun q hq => ?_
      rcases (enter_eq_ok (Ne.symm hup) henter).2 with hstay | ⟨rfl, hthere⟩
      · exact hdir q (hstay ▸ hq)
      · rcases List.prefix_concat_iff.1 hq with rfl | hbefore
        · exact hthere
        · exact hdir q hbefore

/-! ## Where a path leads -/

theorem target_eq (hp : p.Descends) :
    d.target p =
      if p.text.toList.contains '\x00' then .error .zeroInPath
      else if longestPath < p.text.utf8ByteSize then .error .nameTooLong
      else d.follow [] (p.text.toList.getLast? = some '/') p.steps := by
  obtain ⟨rest, hchars⟩ := hp.starts.1
  have hnonempty : ¬p.text.toList.isEmpty = true := by simp [hchars]
  have hhead : p.text.toList.head? = some '/' := by simp [hchars]
  simp only [target, hhead, if_true, if_neg hnonempty, Path.steps]

theorem target_eq_ok_iff (hp : p.Descends) : d.target p = .ok t ↔
    '\x00' ∉ p.text.toList ∧ p.text.utf8ByteSize ≤ longestPath ∧
      d.follow [] (p.text.toList.getLast? = some '/') p.steps = .ok t := by
  rw [target_eq hp]
  split
  next hzero =>
    rw [List.contains_iff_mem] at hzero
    simp [hzero]
  next hzero =>
    rw [List.contains_iff_mem] at hzero
    split
    next hlong => simp [Nat.not_le_of_lt hlong]
    next hshort => simp [hzero, Nat.le_of_not_lt hshort]

theorem follow_of_target (hp : p.Descends) (ht : d.target p = .ok t) :
    d.follow [] (p.text.toList.getLast? = some '/') p.steps = .ok t :=
  ((target_eq_ok_iff hp).1 ht).2.2

/-- A path that descends leads to the place of its names. -/
theorem target_place (hp : p.Descends) (ht : d.target p = .ok t) :
    t.place = p.names := by
  obtain ⟨hnames, hstraight⟩ := hp.names_eq
  rw [(follow_eq_ok hstraight (follow_of_target hp ht)).2,
    List.nil_append, ← hnames]

theorem target_congr (hp : p.Descends)
    (hsame : ∀ q, q <+: p.names → d'.entry? q = d.entry? q) :
    d'.target p = d.target p := by
  obtain ⟨hnames, hstraight⟩ := hp.names_eq
  rw [target_eq hp, target_eq hp, follow_congr hstraight]
  rwa [List.nil_append, ← hnames]

theorem target_of_ok (hp : p.Descends) (ht : d.target p = .ok t)
    (hsame : ∀ q, q <+: t.directory → d'.entry? q = d.entry? q) :
    d'.target p = .ok t := by
  obtain ⟨hzero, hshort, hfollow⟩ := (target_eq_ok_iff hp).1 ht
  exact (target_eq_ok_iff hp).2
    ⟨hzero, hshort, follow_of_ok hp.names_eq.2 hfollow hsame⟩

theorem directory_of_target (hp : p.Descends) (ht : d.target p = .ok t)
    {q : Place} (hq : q <+: t.directory) : d.entry? q = some .directory := by
  refine follow_through hp.names_eq.2 (follow_of_target hp ht) ?_ q hq
  intro q hq
  rw [List.prefix_nil.1 hq, entry?_nil]

theorem look_eq_ok (hp : p.Descends) (hlook : d.look p = .ok e) :
    (∃ t, d.target p = .ok t ∧ t.place = p.names) ∧
    d.entry? p.names = some e := by
  obtain ⟨t, ht, hthen⟩ := ok_of_bind hlook
  have hplace := target_place hp ht
  refine ⟨⟨t, ht, hplace⟩, ?_⟩
  rw [hplace] at hthen
  split at hthen
  · cases hthen
  · cases hthen
  next hentry _ =>
    cases hthen
    exact hentry

theorem look_congr (hp : p.Descends)
    (hsame : ∀ q, q <+: p.names → d'.entry? q = d.entry? q) :
    d'.look p = d.look p := by
  unfold look
  rw [target_congr hp hsame]
  cases ht : d.target p with
  | error cause => rfl
  | ok t =>
    have hplace := target_place hp ht
    simp only [bind, Except.bind, hplace, hsame _ List.prefix_rfl]

theorem readFile_congr (hp : p.Descends)
    (hsame : ∀ q, q <+: p.names → d'.entry? q = d.entry? q) :
    d'.readFile p = d.readFile p := by
  rw [readFile, readFile, look_congr hp hsame]

/-- Everything on the way to something that is there is there. -/
theorem there_of_look (hp : p.Descends) (hlook : d.look p = .ok e) {q : Place}
    (hq : q <+: p.names) : ∃ e, d.entry? q = some e := by
  obtain ⟨⟨t, ht, hplace⟩, hentry⟩ := look_eq_ok hp hlook
  cases hending : t.ending with
  | dots =>
    rw [Target.place, hending] at hplace
    rw [← hplace] at hq
    exact ⟨_, directory_of_target hp ht hq⟩
  | name text slash =>
    rw [Target.place, hending] at hplace
    rw [← hplace] at hq hentry
    rcases List.prefix_concat_iff.1 hq with rfl | hbefore
    · exact ⟨e, hentry⟩
    · exact ⟨_, directory_of_target hp ht hbefore⟩

theorem look_of_readFile (hread : d.readFile p = .ok bytes) :
    d.look p = .ok (.file bytes) := by
  obtain ⟨e, hlook, hthen⟩ := ok_of_bind hread
  cases e <;> cases hthen
  exact hlook

/-- Where a name in a directory is found, the directory is found. -/
theorem look_of_target_within {outer : Path} {name last : String}
    (hp : p.Descends) (houter : outer.Descends)
    (hnames : p.names = outer.names ++ [name])
    (hsteps : p.steps = outer.steps ++ [last])
    (htext : ∃ rest, p.text = outer.text ++ rest) (ht : d.target p = .ok t) :
    ∃ e, d.look outer = .ok e := by
  obtain ⟨t', ht'⟩ : ∃ t', d.target outer = .ok t' := by
    obtain ⟨hzero, hshort, hfollow⟩ := (target_eq_ok_iff hp).1 ht
    obtain ⟨rest, htext⟩ := htext
    rw [hsteps] at hfollow
    rw [htext, String.toList_append] at hzero
    rw [htext, String.utf8ByteSize_append] at hshort
    obtain ⟨t', hfollow'⟩ := follow_init houter.names_eq.2 hfollow
      (outer.text.toList.getLast? = some '/')
    have hzero' : '\x00' ∉ outer.text.toList :=
      mt (List.mem_append_left _) hzero
    have hshort' : outer.text.utf8ByteSize ≤ longestPath :=
      Nat.le_of_add_right_le hshort
    exact ⟨t', (target_eq_ok_iff houter).2 ⟨hzero', hshort', hfollow'⟩⟩
  have hbefore : outer.names <+: t.directory := by
    have hplace := target_place hp ht
    cases hending : t.ending with
    | dots =>
      rw [Target.place, hending] at hplace
      rw [show t.directory = p.names from hplace, hnames]
      exact List.prefix_append _ _
    | name text slash =>
      rw [Target.place, hending, hnames] at hplace
      exact (List.append_inj' hplace rfl).1 ▸ List.prefix_rfl
  have hentry := directory_of_target hp ht hbefore
  rw [← target_place houter ht'] at hentry
  exact ⟨.directory, by simp [look, ht', hentry, bind, Except.bind]⟩

theorem readFile_of_target {text : String}
    (ht : d.target p = .ok ⟨dir, .name text false⟩)
    (hfile : d.entry? (dir ++ [text]) = some (.file bytes)) :
    d.readFile p = .ok bytes := by
  simp [readFile, look, ht, Target.place, hfile, bind, Except.bind]

/-! ## What each operation does -/

theorem writeFile_eq_ok (hp : p.Descends)
    (hwrite : d.writeFile p bytes = .ok d') :
    p.names ≠ [] ∧ d.entry? p.names ≠ some .directory ∧
    d' = d.put p.names (.file bytes) := by
  obtain ⟨t, ht, hthen⟩ := ok_of_bind hwrite
  rw [target_place hp ht] at hthen
  split at hthen
  · cases hthen
  · cases hthen
  · cases hthen
  next hending hfree =>
    cases hthen
    have hnot : d.entry? p.names ≠ some .directory :=
      fun hdirectory => hfree hdirectory
    refine ⟨?_, hnot, rfl⟩
    intro hroot
    exact hnot (by rw [hroot, entry?_nil])

/-- The path of a file that has been written leads to it. -/
theorem target_of_writeFile (hp : p.Descends)
    (hwrite : d.writeFile p bytes = .ok d') :
    ∃ dir text, d'.target p = .ok ⟨dir, .name text false⟩ ∧
      dir ++ [text] = p.names ∧
      d'.entry? p.names = some (.file bytes) := by
  obtain ⟨hroot, _, rfl⟩ := writeFile_eq_ok hp hwrite
  obtain ⟨⟨dir, ending⟩, ht, hthen⟩ := ok_of_bind hwrite
  have hplace := target_place hp ht
  cases ending with
  | dots => cases hthen
  | name text slash =>
    cases slash with
    | true => cases hthen
    | false =>
      have hnames : dir ++ [text] = p.names := hplace
      refine ⟨dir, text, target_of_ok hp ht fun q hq =>
        entry?_put_of_ne hroot ?_, hnames, by rw [entry?_put hroot, if_pos rfl]⟩
      rintro rfl
      exact absurd (hnames ▸ hq).length_le (by simp)

/-- What has been written is there. -/
theorem look_of_writeFile (hp : p.Descends)
    (hwrite : d.writeFile p bytes = .ok d') :
    d'.look p = .ok (.file bytes) := by
  obtain ⟨dir, text, ht, hnames, hentry⟩ := target_of_writeFile hp hwrite
  simp [look, ht, Target.place, hnames, hentry, bind, Except.bind]

/-- A file that has been written can be written again. -/
theorem writeFile_of_writeFile (hp : p.Descends)
    (hwrite : d.writeFile p bytes = .ok d') (other : Bytes) :
    ∃ again, d'.writeFile p other = .ok again := by
  obtain ⟨dir, text, ht, hnames, hentry⟩ := target_of_writeFile hp hwrite
  simp [writeFile, ht, Target.place, hnames, hentry, bind, Except.bind]

theorem removeFile_eq_ok (hp : p.Descends) (hremove : d.removeFile p = .ok d') :
    p.names ≠ [] ∧ (∃ bytes, d.entry? p.names = some (.file bytes)) ∧
    d' = d.drop p.names := by
  obtain ⟨t, ht, hthen⟩ := ok_of_bind hremove
  obtain ⟨e, hlook, hlast⟩ := ok_of_bind hthen
  cases e with
  | directory => cases hlast
  | file bytes =>
    have hentry := (look_eq_ok hp hlook).2
    cases hlast
    refine ⟨?_, ⟨bytes, hentry⟩, by rw [target_place hp ht]⟩
    intro hroot
    rw [hroot, entry?_nil] at hentry
    cases hentry

theorem removeFile_of_look {bytes : Bytes} (hp : p.Descends)
    (hlook : d.look p = .ok (.file bytes)) :
    d.removeFile p = .ok (d.drop p.names) := by
  obtain ⟨⟨t, ht, hplace⟩, _⟩ := look_eq_ok hp hlook
  simp [removeFile, ht, hlook, hplace, bind, Except.bind]

/-- Where a file has been taken away there is nothing. -/
theorem look_drop (hp : p.Descends) (hlook : d.look p = .ok (.file bytes)) :
    (d.drop p.names).look p = .error .notFound := by
  obtain ⟨⟨⟨dir, ending⟩, ht, hplace⟩, hentry⟩ := look_eq_ok hp hlook
  cases ending with
  | dots =>
    have hdirectory := directory_of_target hp ht List.prefix_rfl
    rw [show dir = p.names from hplace, hentry] at hdirectory
    cases hdirectory
  | name text slash =>
    have hnames : p.names = dir ++ [text] := hplace.symm
    have hroot : p.names ≠ [] := by simp [hnames]
    have ht' : (d.drop p.names).target p = .ok ⟨dir, .name text slash⟩ := by
      refine target_of_ok hp ht fun q hq => ?_
      rw [entry?_drop hroot, if_neg]
      rintro rfl
      exact absurd (hnames ▸ hq).length_le (by simp)
    have hnone : Disk.entry? (d.drop p.names)
        (Target.place ⟨dir, .name text slash⟩) = none := by
      rw [hplace, entry?_drop hroot, if_pos rfl]
    simp [look, ht', hnone, bind, Except.bind]

theorem makeDirectory_eq_ok (hp : p.Descends)
    (hmake : d.makeDirectory p = .ok d') :
    p.names ≠ [] ∧ d.entry? p.names = none ∧ d' = d.put p.names .directory := by
  obtain ⟨t, ht, hthen⟩ := ok_of_bind hmake
  rw [target_place hp ht] at hthen
  split at hthen
  · cases hthen
  · cases hthen
  next hnone =>
    cases hthen
    refine ⟨?_, hnone, rfl⟩
    intro hroot
    rw [hroot, entry?_nil] at hnone
    cases hnone

theorem moveFile_eq_ok {source goal : Path} (hsource : source.Descends)
    (hgoal : goal.Descends) (hmove : d.moveFile source goal = .ok d') :
    ∃ bytes dir text, d.entry? source.names = some (.file bytes) ∧
      d.target goal = .ok ⟨dir, .name text false⟩ ∧ goal.names = dir ++ [text] ∧
      d.entry? goal.names ≠ some .directory ∧
      d' = (d.drop source.names).put goal.names (.file bytes) := by
  obtain ⟨s, hs, hthen⟩ := ok_of_bind hmove
  obtain ⟨⟨dir, ending⟩, ht, hlast⟩ := ok_of_bind hthen
  have hplace := target_place hgoal ht
  rw [target_place hsource hs, hplace] at hlast
  cases ending with
  | dots => cases hlast
  | name text slash =>
    simp only at hlast
    split at hlast
    · cases hlast
    · cases hlast
    next bytes hentry =>
      cases slash with
      | true => cases hlast
      | false =>
        simp only [Bool.false_eq_true, if_false] at hlast
        split at hlast
        next => cases hlast
        next hfree =>
          cases hlast
          exact ⟨bytes, dir, text, hentry, ht, hplace.symm, hfree, rfl⟩

/-- Where a file can be moved, it can be moved with other bytes as well. -/
theorem moveFile_of_writeFile {source goal : Path} (hsource : source.Descends)
    (hgoal : goal.Descends) (hmove : d.moveFile source goal = .ok d')
    {again : Disk} (hwrite : d.writeFile source bytes = .ok again)
    (hapart : ∀ q, q <+: goal.names → q ≠ source.names) :
    ∃ moved, again.moveFile source goal = .ok moved := by
  obtain ⟨_, dir, text, _, htarget, hnames, hfree, _⟩ :=
    moveFile_eq_ok hsource hgoal hmove
  obtain ⟨dir', text', htarget', hnames', hentry⟩ :=
    target_of_writeFile hsource hwrite
  obtain ⟨hroot, _, rfl⟩ := writeFile_eq_ok hsource hwrite
  have hsame : ∀ q, q <+: goal.names →
      Disk.entry? (d.put source.names (.file bytes)) q = d.entry? q :=
    fun q hq => entry?_put_of_ne hroot (hapart q hq)
  have hthere := (target_congr hgoal hsame).trans htarget
  have hstill := hsame _ List.prefix_rfl
  simp [moveFile, htarget', hthere, Target.place, hnames', hentry, ← hnames,
    hstill, hfree, bind, Except.bind]

end Disk

end Redelivery
