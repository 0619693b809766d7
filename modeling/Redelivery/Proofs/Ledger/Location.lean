import Mathlib.Data.List.Find
import Redelivery.Proofs.Disk.Spelling
import Redelivery.Proofs.Ledger.File

/-!
# Where a ledger may lie

Which paths are accepted is decided by whether they start at the root and by the
steps of their way, so no spelling gets around the checks.  Whoever asks for a
ledger file is told the same, and the temporary file, whose name begins like
that of no directory of the system, lies where a ledger may lie too.
-/

namespace Redelivery

namespace PathError

def about (path : Path) : PathError → PathError
  | goesUp _ => .goesUp path
  | notAbsolute _ => .notAbsolute path
  | systemDirectory directory _ => .systemDirectory directory path
  | isDirectory _ => .isDirectory path

variable {p q : Path}

theorem rooted_of_mem {dir : Path} (hdir : dir ∈ systemDirectories) :
    dir.Rooted := by
  have hall : ∀ dir ∈ systemDirectories, dir.Rooted := by decide
  exact hall dir hdir

/-- What is found out about a path, said of its start and its way. -/
theorem of?_eq (p : Path) : of? p =
    if ".." ∈ p.way then some (.goesUp p)
    else if ¬p.Rooted then some (.notAbsolute p)
    else (systemDirectories.find? fun dir => dir.way.isPrefixOf p.way).map
      (.systemDirectory · p) := by
  have hup : p.components.contains .parent = true ↔ ".." ∈ p.way := by
    rw [List.contains_iff_mem, Path.parent_mem_components_iff]
  have hrooted : (!p.isAbsolute) = true ↔ ¬p.Rooted := by
    rw [Bool.not_eq_true', ← Bool.not_eq_true, Path.isAbsolute_iff]
  rw [of?]
  simp only [hup, hrooted]
  split
  next => rfl
  next =>
    split
    next => rfl
    next hp =>
      congr 1
      refine List.find?_congr fun dir hdir => ?_
      rw [Bool.eq_iff_iff, Path.startsWith_iff (Decidable.not_not.1 hp)
          (rooted_of_mem hdir), List.isPrefixOf_iff_prefix]

theorem of?_eq_none_iff : of? p = none ↔
    p.Rooted ∧ ".." ∉ p.way ∧ ∀ dir ∈ systemDirectories,
      ¬dir.way <+: p.way := by
  rw [of?_eq]
  by_cases hup : ".." ∈ p.way
  · simp [hup]
  · by_cases hp : p.Rooted
    · simp [hup, hp]
    · simp [hup, hp]

theorem map_about (up relative : Prop) [Decidable up] [Decidable relative]
    (found : Option Path) (p q : Path) :
    (if up then some (goesUp p) else if relative then some (notAbsolute p)
      else found.map (systemDirectory · p)).map (about q) =
    if up then some (goesUp q) else if relative then some (notAbsolute q)
      else found.map (systemDirectory · q) := by
  split
  next => rfl
  next =>
    split
    next => rfl
    next =>
      rw [Option.map_map]
      rfl

/-- Two spellings of one way are judged alike. -/
theorem of?_respelled (hrooted : q.Rooted ↔ p.Rooted) (hway : q.way = p.way) :
    of? q = (of? p).map (about q) := by
  rw [of?_eq q, of?_eq p, map_about, hway]
  simp only [hrooted]

/-- Two paths of the same parts are judged alike. -/
theorem of?_of_components (hparts : q.components = p.components) :
    of? q = (of? p).map (about q) := by
  have habsolute : q.isAbsolute = p.isAbsolute := by
    rw [Path.isAbsolute, hparts, Path.isAbsolute]
  have hstarts : q.startsWith = p.startsWith := by
    funext dir
    rw [Path.startsWith, hparts, Path.startsWith]
  rw [of?, of?, map_about, hparts, habsolute, hstarts]

/-- How a path is judged, whoever asks. -/
structure Judges (p : Path) : Prop where
  /-- It is accepted if it starts at the root, never goes up, and begins with
  all the steps of no directory of the system. -/
  accepts : of? p = none ↔
    p.Rooted ∧ ".." ∉ p.way ∧ ∀ dir ∈ systemDirectories, ¬dir.way <+: p.way
  /-- Otherwise the first cause is told, and the first of the directories. -/
  tells : of? p =
    if ".." ∈ p.way then some (.goesUp p)
    else if ¬p.Rooted then some (.notAbsolute p)
    else (systemDirectories.find? fun dir => dir.way.isPrefixOf p.way).map
      (.systemDirectory · p)
  /-- Every other spelling of the path is judged in the same way. -/
  respelled : ∀ q : Path, (q.Rooted ↔ p.Rooted) → q.way = p.way →
    of? q = (of? p).map (about q)
  parted : ∀ q : Path, q.components = p.components →
    of? q = (of? p).map (about q)
  built : (LedgerFile.build (some p)).map LedgerFile.path =
    match of? p with
    | none => .ok p
    | some cause => .error (.path cause)
  read : ∀ (ε : Type) (refusal : String → ε),
    (LedgerFile.ofDocument refusal (.ok p)).map LedgerFile.path =
      match of? p with
      | none => .ok p
      | some cause => .error (refusal cause.message)

end PathError

namespace LedgerFile

variable {p : Path}

/-! ## Who asks for a file -/

theorem at?_of_refused {cause : PathError}
    (hcause : PathError.of? p = some cause) :
    at? p = .error cause := by
  rw [at?]
  split
  next haccepted => cases haccepted.symm.trans hcause
  next other hother => rw [Option.some.inj (hother.symm.trans hcause)]

/-- Whoever asks for a file gets it at the path that was asked for, or is told
the cause in his own way. -/
theorem map_path_mapError_at? {ε : Type} (tell : PathError → ε) (p : Path) :
    ((at? p).mapError tell).map path =
      match PathError.of? p with
      | none => .ok p
      | some cause => .error (tell cause) := by
  cases hjudged : PathError.of? p with
  | none =>
    have hat : at? p = .ok ⟨p, hjudged⟩ := at?_path ⟨p, hjudged⟩
    rw [hat]
    rfl
  | some cause =>
    rw [at?_of_refused hjudged]
    rfl

/-! ## The temporary file -/

theorem rooted_temporary (f : LedgerFile) : f.temporary.Rooted :=
  Path.isAbsolute_iff.1 f.temporary_descends.rooted

theorem names_eq_way (f : LedgerFile) : f.path.names = f.path.way :=
  Path.names_eq_way f.path_descends.straight_way

theorem way_temporary (f : LedgerFile) : f.temporary.way =
    f.path.way.dropLast ++ [".tmp_" ++ f.path.way.getLast?.getD "ledger"] := by
  have hnames := f.temporary_names
  rwa [Path.names_eq_way f.temporary_descends.straight_way, temporaryName,
    names_eq_way] at hnames

theorem unprefixed_of_mem {dir : Path} (hdir : dir ∈ systemDirectories)
    {step : String} (hstep : step ∈ dir.way) :
    ¬".tmp_".toList <+: step.toList := by
  have hall : ∀ dir ∈ systemDirectories, ∀ step ∈ dir.way,
      ¬".tmp_".toList <+: step.toList := by
    decide
  exact hall dir hdir step hstep

theorem of?_temporary (f : LedgerFile) : PathError.of? f.temporary = none := by
  obtain ⟨-, -, houtside⟩ := PathError.of?_eq_none_iff.1 f.accepted
  refine PathError.of?_eq_none_iff.2
    ⟨f.rooted_temporary, f.temporary_descends.straight_way,
      fun dir hdir hbegins => ?_⟩
  rw [way_temporary, List.prefix_concat_iff] at hbegins
  rcases hbegins with hwhole | hbefore
  · have hlast : ".tmp_" ++ f.path.way.getLast?.getD "ledger" ∈ dir.way := by
      simp [hwhole]
    refine unprefixed_of_mem hdir hlast ?_
    rw [String.toList_append]
    exact List.prefix_append _ _
  · exact houtside dir hdir (hbefore.trans (List.dropLast_prefix _))

/-- The temporary file of a ledger lies beside it, where a ledger may lie. -/
structure TemporaryBeside (f : LedgerFile) : Prop where
  accepted : PathError.of? f.temporary = none
  beside : f.temporary.way =
    f.path.way.dropLast ++ [".tmp_" ++ f.path.way.getLast?.getD "ledger"]
  apart : f.temporary.way ≠ f.path.way
  /-- It is spelled as the directory of the file, with the name after it. -/
  spelled : ∀ parent, f.path.parent? = some parent →
    f.temporary = parent.push (".tmp_" ++ f.path.way.getLast?.getD "ledger")
  /-- A path of slashes and dots alone is itself the directory. -/
  inRoot : f.path.way = [] → f.temporary = f.path.push ".tmp_ledger"
  ofRoot : f.path.text = "/" → f.temporary.text = "/.tmp_ledger"

theorem temporaryBeside (f : LedgerFile) : f.TemporaryBeside where
  accepted := f.of?_temporary
  beside := f.way_temporary
  apart := by
    have hnames := temporary_apart (f := f) List.prefix_rfl
    rw [Path.names_eq_way f.temporary_descends.straight_way, names_eq_way]
      at hnames
    exact hnames.symm
  spelled := by
    intro parent hparent
    rw [temporary_of_parent hparent, temporaryName, names_eq_way]
  inRoot hroot := temporary_of_root (f.names_eq_way.trans hroot)
  ofRoot := by
    intro htext
    have hpath : f.path = ⟨"/"⟩ := congrArg Path.mk htext
    have hroot : f.path.names = [] := by
      rw [hpath]
      decide
    rw [temporary_of_root hroot, hpath]
    decide

/-- The nine directories of the system are told by their steps, every path is
judged by its start and its steps, and the temporary file of every ledger lies
beside it. -/
theorem judged_by_way :
    systemDirectories.map Path.way =
      [["etc"], ["bin"], ["sbin"], ["usr", "bin"], ["usr", "sbin"],
      ["boot"], ["sys"], ["proc"], ["dev"]] ∧
    (∀ p : Path, PathError.Judges p) ∧ ∀ f : LedgerFile, f.TemporaryBeside := by
  refine ⟨by decide, fun p => ?_, temporaryBeside⟩
  exact {
    accepts := PathError.of?_eq_none_iff
    tells := PathError.of?_eq p
    respelled := fun q hrooted hway => PathError.of?_respelled hrooted hway
    parted := fun q hparts => PathError.of?_of_components hparts
    built := map_path_mapError_at? LedgerError.path p
    read := fun ε refusal =>
      map_path_mapError_at? (fun cause => refusal cause.message) p }

def atRoot : LedgerFile :=
  ⟨⟨"//"⟩, by decide⟩

theorem judged_by_way_roundabout :
    PathError.of? ⟨"//etc/./x/"⟩ =
      some (.systemDirectory ⟨"/etc"⟩ ⟨"//etc/./x/"⟩) ∧
      atRoot.temporary.text = "//.tmp_ledger" ∧
      PathError.of? atRoot.temporary = none := by
  obtain ⟨-, hjudges, hbeside⟩ := judged_by_way
  have hrespelled :=
    (hjudges ⟨"/etc/x"⟩).respelled ⟨"//etc/./x/"⟩ (by decide) (by decide)
  have hstraight : PathError.of? ⟨"/etc/x"⟩ =
      some (.systemDirectory ⟨"/etc"⟩ ⟨"/etc/x"⟩) := by
    decide
  rw [hstraight] at hrespelled
  have htext := congrArg Path.text ((hbeside atRoot).inRoot (by decide))
  exact ⟨hrespelled, htext, (hbeside atRoot).accepted⟩

end LedgerFile

end Redelivery
