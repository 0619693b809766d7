import Redelivery.Ledger.File
import Redelivery.Proofs.Disk.Faults
import Redelivery.Proofs.Ledger.Format

/-!
# A save replaces the ledger or leaves it

The temporary file lies beside the ledger and is never the ledger itself, nor on
the way to it.  So nothing but the move at its end makes a save visible:
wherever it is stopped and whatever fails, the old ledger is loaded or the new
one.  Preparing the file again takes away what is left of the save and nothing
else.
-/

namespace Redelivery.LedgerFile

variable {f : LedgerFile} {d d' : Disk} {kept : Option Ledger} {l : Ledger}
  {bytes : Bytes} {changes : List Change}

/-! ## The two paths -/

theorem at?_path (f : LedgerFile) : at? f.path = .ok f := by
  unfold at?
  split
  next => rfl
  next cause hcause => cases f.accepted.symm.trans hcause

theorem path_descends (f : LedgerFile) : f.path.Descends := by
  have haccepted := f.accepted
  unfold PathError.of? at haccepted
  split at haccepted
  next => cases haccepted
  next hstraight =>
    split at haccepted
    next => cases haccepted
    next hrooted => exact ⟨by simpa using hrooted, by simpa using hstraight⟩

def temporaryName (f : LedgerFile) : String :=
  ".tmp_" ++ f.path.names.getLast?.getD "ledger"

theorem plain_temporaryName (f : LedgerFile) : Path.Plain f.temporaryName := by
  have hlast : Path.Plain (f.path.names.getLast?.getD "ledger") := by
    cases hnames : f.path.names.getLast? with
    | none => exact ⟨by decide, by decide⟩
    | some last => exact Path.plain_of_mem_names (List.mem_of_getLast? hnames)
  exact hlast.append (by decide) (by decide)

theorem temporary_eq (f : LedgerFile) :
    f.temporary = f.path.withFileName f.temporaryName := by
  rw [temporary, f.path_descends.fileName?_eq, temporaryName]

theorem temporary_descends (f : LedgerFile) : f.temporary.Descends :=
  f.temporary_eq ▸ (f.path_descends.withFileName f.plain_temporaryName).1

theorem temporary_names (f : LedgerFile) :
    f.temporary.names = f.path.names.dropLast ++ [f.temporaryName] :=
  f.temporary_eq ▸ (f.path_descends.withFileName f.plain_temporaryName).2

/-- The temporary file does not lie on the way to the ledger. -/
theorem temporary_apart {place : Place} (hplace : place <+: f.path.names) :
    place ≠ f.temporary.names := by
  rintro rfl
  rw [temporary_names] at hplace
  rcases f.path.names.eq_nil_or_concat with hnone | ⟨init, last, hnames⟩
  · simp [hnone] at hplace
  · rw [temporaryName, hnames, List.concat_eq_append, List.dropLast_concat,
      List.getLast?_concat] at hplace
    have hsame : ".tmp_" ++ last = last := by
      simpa using hplace.eq_of_length (by simp)
    have hlength := congrArg String.length hsame
    rw [String.length_append] at hlength
    exact absurd hlength (by simp [String.length])

theorem path_apart (hsome : f.path.names ≠ []) {place : Place}
    (hplace : place <+: f.temporary.names) : place ≠ f.path.names := by
  rintro rfl
  have hlength : f.path.names.length = f.temporary.names.length := by
    have hpos := List.length_pos_iff.2 hsome
    rw [temporary_names, List.length_append, List.length_dropLast,
      List.length_singleton]
    omega
  have hsame := hplace.eq_of_length hlength
  exact temporary_apart List.prefix_rfl hsame

theorem parent_descends {parent : Path}
    (hparent : f.path.parent? = some parent) :
    parent.Descends ∧ parent.names = f.path.names.dropLast := by
  rcases f.path_descends.parent?_cases with ⟨_, hnone⟩ |
    ⟨outer, houter, hdescends, _, hnames⟩
  · cases hnone.symm.trans hparent
  · cases houter.symm.trans hparent
    exact ⟨hdescends, by rw [hnames, List.dropLast_concat]⟩

theorem names_of_parent {parent : Path}
    (hparent : f.path.parent? = some parent) :
    f.path.names ≠ [] := by
  rcases f.path_descends.parent?_cases with ⟨_, hnone⟩ | ⟨_, _, _, _, hnames⟩
  · cases hnone.symm.trans hparent
  · simp [hnames]

/-- The temporary file is spelled as the directory of the file, with its name
after it. -/
theorem temporary_of_parent {parent : Path}
    (hparent : f.path.parent? = some parent) :
    f.temporary = parent.push f.temporaryName := by
  have hname : f.path.fileName? =
      some (f.path.names.getLast (names_of_parent hparent)) := by
    rw [f.path_descends.fileName?_eq, List.getLast?_eq_some_getLast]
  rw [temporary_eq, Path.withFileName, hname, hparent]
  rfl

theorem temporary_of_root (hroot : f.path.names = []) :
    f.temporary = f.path.push ".tmp_ledger" := by
  rw [temporary_eq, Path.withFileName, f.path_descends.fileName?_eq,
    temporaryName, hroot]
  rfl

/-! ## What is loaded -/

theorem run_load (f : LedgerFile) (d : Disk) : (f.load.run d).2 = d := by
  simp only [load, Program.run]
  split
  next => split <;> rfl
  all_goals rfl

theorem readFile_of_load (hload : (f.load.run d).1 = .ok (some l)) :
    ∃ bytes, d.readFile f.path = .ok bytes := by
  cases hread : d.readFile f.path with
  | ok bytes => exact ⟨bytes, rfl⟩
  | error cause =>
    simp only [load, Program.run, hread] at hload
    cases cause <;> cases hload

theorem load_of_decode {bytes : Bytes} (hread : d.readFile f.path = .ok bytes)
    (hdecode : Ledger.decode bytes = .ok l) :
    (f.load.run d).1 = .ok (some l) := by
  simp [load, Program.run, hread, hdecode]

theorem run_loadLive (f : LedgerFile) (now : UInt64) (d : Disk) :
    ((f.loadLive now).run d).1 =
      (f.load.run d).1.map (Ledger.restored · now) := by
  simp only [loadLive, Program.run_bind]
  cases (f.load.run d).1 <;> rfl

theorem loadLive_congr {now : UInt64}
    (hread : d'.readFile f.path = d.readFile f.path) :
    ((f.loadLive now).run d').1 = ((f.loadLive now).run d).1 := by
  have hload : (f.load.run d').1 = (f.load.run d).1 := by
    simp only [load, Program.run, hread]
    split
    next => split <;> rfl
    all_goals rfl
  rw [run_loadLive, run_loadLive, hload]

theorem loadLive_of_decode {now : UInt64} {bytes : Bytes}
    (hread : d.readFile f.path = .ok bytes)
    (hdecode : Ledger.decode bytes = .ok l) :
    ((f.loadLive now).run d).1 = .ok (l.prune now) := by
  rw [run_loadLive, load_of_decode hread hdecode]
  rfl

/-- What is loaded from a file is what is left of the ledger that its bytes
hold. -/
theorem decode_of_loadLive {now : UInt64} {bytes : Bytes} {loaded : Ledger}
    (hread : d.readFile f.path = .ok bytes)
    (hload : ((f.loadLive now).run d).1 = .ok loaded) :
    ∃ l, Ledger.decode bytes = .ok l ∧ loaded = l.prune now := by
  cases hdecode : Ledger.decode bytes with
  | ok l =>
    rw [loadLive_of_decode hread hdecode] at hload
    cases hload
    exact ⟨l, rfl, rfl⟩
  | error cause =>
    have hrefused : (f.load.run d).1 = .error (.format cause) := by
      simp [load, Program.run, hread, hdecode]
    rw [run_loadLive, hrefused] at hload
    cases hload

/-- Reading the ledger changes nothing, and a ledger that was read is the one in
the file. -/
theorem load_ends {result : Option (Except LedgerError (Option Ledger))}
    (hends : f.load.Ends d changes result d') :
    d' = d ∧ ∀ l, result = some (.ok (some l)) →
      ∃ bytes, d.readFile f.path = .ok bytes ∧ Ledger.decode bytes = .ok l := by
  cases hends with
  | stopped => exact ⟨rfl, by simp⟩
  | read answer hanswer hrest =>
    dsimp only at hrest
    split at hrest
    next bytes =>
      have hread : d.readFile f.path = .ok bytes := by
        simpa [eq_comm] using hanswer
      split at hrest
      next l hdecode =>
        obtain ⟨-, rfl, rfl | rfl⟩ := hrest.of_done
        · exact ⟨rfl, by simp⟩
        · refine ⟨rfl, ?_⟩
          rintro l' ⟨⟩
          exact ⟨bytes, hread, hdecode⟩
      next =>
        obtain ⟨-, rfl, rfl | rfl⟩ := hrest.of_done <;> exact ⟨rfl, by simp⟩
    all_goals obtain ⟨-, rfl, rfl | rfl⟩ :=
      hrest.of_done <;> exact ⟨rfl, by simp⟩
  | taken hasks | refused hasks | failed hasks | cut hasks => cases hasks

/-- A ledger that is loaded is the one that the bytes of the file hold. -/
theorem decode_of_load (hload : (f.load.run d).1 = .ok (some l)) :
    ∃ bytes, d.readFile f.path = .ok bytes ∧ Ledger.decode bytes = .ok l := by
  obtain ⟨changes, hends⟩ := Program.ends_run f.load d
  rw [hload] at hends
  exact (load_ends hends).2 l rfl

/-! ## What is there before a save -/

/-- The directory of the file is there. -/
def Housed (f : LedgerFile) (d : Disk) : Prop :=
  ∀ parent, f.path.parent? = some parent → ∃ e, d.look parent = .ok e

/-- The file is not there, or holds a ledger. -/
def Holds (f : LedgerFile) (d : Disk) : Option Ledger → Prop
  | none => d.readFile f.path = .error .notFound
  | some l => ∃ bytes, d.readFile f.path = .ok bytes ∧ l.WrittenAs bytes ∧
      bytes.length < UInt64.size

/-- What the file holds is loaded. -/
theorem load_of_holds (hkept : f.Holds d kept) :
    (f.load.run d).1 = .ok kept := by
  cases kept with
  | none =>
    have hread : d.readFile f.path = .error .notFound := hkept
    simp [load, Program.run, hread]
  | some l =>
    obtain ⟨bytes, hread, hform, hshort⟩ := hkept
    have hdecode : Ledger.decode bytes = .ok l := by
      simpa using Ledger.decode_append hform hshort []
    exact load_of_decode hread hdecode

theorem Holds.of_same (hkept : f.Holds d kept)
    (hsame : ∀ place, place <+: f.path.names →
      d'.entry? place = d.entry? place) :
    f.Holds d' kept := by
  have hread := Disk.readFile_congr f.path_descends hsame
  cases kept with
  | none => exact hread.trans hkept
  | some l =>
    obtain ⟨bytes, hbytes, hform⟩ := hkept
    exact ⟨bytes, hread.trans hbytes, hform⟩

theorem Housed.of_same (hhoused : f.Housed d)
    (hsame : ∀ place, place <+: f.path.names.dropLast →
      d'.entry? place = d.entry? place) :
    f.Housed d' := by
  intro parent hparent
  obtain ⟨hdescends, hnames⟩ := parent_descends hparent
  obtain ⟨e, hlook⟩ := hhoused parent hparent
  exact ⟨e, (Disk.look_congr hdescends (hnames ▸ hsame)).trans hlook⟩

theorem Housed.there (hhoused : f.Housed d) {place : Place}
    (hplace : place <+: f.path.names.dropLast) :
    ∃ e, d.entry? place = some e := by
  rcases f.path_descends.parent?_cases with ⟨hnone, _⟩ |
    ⟨parent, hparent, hdescends, _, hnames⟩
  · rw [hnone] at hplace
    exact ⟨.directory, by rw [List.prefix_nil.1 hplace, Disk.entry?_nil]⟩
  · obtain ⟨e, hlook⟩ := hhoused parent hparent
    rw [hnames, List.dropLast_concat] at hplace
    exact Disk.there_of_look hdescends hlook hplace

/-- Where the temporary file is written, the directory is there. -/
theorem housed_of_writeFile (hwrite : d.writeFile f.temporary bytes = .ok d') :
    f.Housed d := by
  intro parent hparent
  obtain ⟨hdescends, hnames⟩ := parent_descends hparent
  have hpush := temporary_of_parent hparent
  have hwithin : f.temporary.names = parent.names ++ [f.temporaryName] := by
    rw [temporary_names, hnames]
  have hsteps : f.temporary.steps = parent.steps ++ [f.temporaryName] := by
    rw [hpush, hdescends.steps_push f.plain_temporaryName]
  have htext : ∃ rest, f.temporary.text = parent.text ++ rest :=
    hpush ▸ Path.text_push parent _
  obtain ⟨t, ht, _⟩ := Disk.ok_of_bind hwrite
  exact Disk.look_of_target_within f.temporary_descends hdescends hwithin
    hsteps htext ht

/-! ## Saving -/

/-- A save ends before anything is written, with something written to the
temporary file, or with the new bytes moved into the place of the ledger.  Once
an operation has failed, nothing is left to do but to say so. -/
theorem replace_cases {result : Option (Except LedgerError Unit)}
    (hends : (f.replace bytes).Ends d changes result d') :
    (changes = [] ∧ d' = d ∧ result ≠ some (.ok ())) ∨
    (∃ start, changes = [.written f.temporary start] ∧
      d.writeFile f.temporary start = .ok d' ∧
      result ≠ some (.ok ())) ∨
    (∃ d₁, changes = [.written f.temporary bytes, .moved f.temporary f.path] ∧
      d.writeFile f.temporary bytes = .ok d₁ ∧
      d₁.moveFile f.temporary f.path = .ok d') := by
  have hover : ∀ {cause : DiskError} {e : Disk} {cs : List Change},
      (Program.done (.error (LedgerError.disk cause))).Ends e cs result d' →
        cs = [] ∧ d' = e ∧ result ≠ some (.ok ()) := by
    intro cause e cs hends
    obtain ⟨rfl, rfl, rfl | rfl⟩ := hends.of_done <;> simp
  cases hends with
  | stopped => exact .inl ⟨rfl, rfl, by simp⟩
  | refused hasks cause hrest =>
    cases hasks
    exact .inl (hover hrest)
  | failed hasks hpart htake cause hrest =>
    cases hasks
    cases hpart
    obtain ⟨rfl, rfl, hresult⟩ := hover hrest
    exact .inr (.inl ⟨_, rfl, htake, hresult⟩)
  | cut hasks hpart htake =>
    cases hasks
    cases hpart
    exact .inr (.inl ⟨_, rfl, htake, by simp⟩)
  | taken hasks htake hrest =>
    cases hasks
    cases hrest with
    | stopped => exact .inr (.inl ⟨_, rfl, htake, by simp⟩)
    | refused hasks cause hrest =>
      cases hasks
      obtain ⟨rfl, rfl, hresult⟩ := hover hrest
      exact .inr (.inl ⟨_, rfl, htake, hresult⟩)
    | failed hasks hpart htake cause hrest =>
      cases hasks
      cases hpart
    | cut hasks hpart htake =>
      cases hasks
      cases hpart
    | taken hasks hmove hrest =>
      cases hasks
      obtain ⟨rfl, rfl, _⟩ := hrest.of_done
      exact .inr (.inr ⟨_, rfl, htake, hmove⟩)

/-- What a save leaves, wherever it ends: everything but the temporary file as
it was, or the new bytes in the place of the ledger and no temporary file. -/
theorem replace_writes {result : Option (Except LedgerError Unit)}
    (hends : (f.replace bytes).Ends d changes result d') :
    (.moved f.temporary f.path ∉ changes ∧ result ≠ some (.ok ()) ∧
      ∀ place, place ≠ f.temporary.names → d'.entry? place = d.entry? place) ∨
    (.moved f.temporary f.path ∈ changes ∧ d'.readFile f.path = .ok bytes ∧
      d'.look f.temporary = .error .notFound ∧
      ∀ place, place ≠ f.temporary.names → place ≠ f.path.names →
        d'.entry? place = d.entry? place) := by
  rcases replace_cases hends with ⟨rfl, rfl, hresult⟩ |
    ⟨start, rfl, hwrite, hresult⟩ |
    ⟨d₁, rfl, hwrite, hmove⟩
  · exact .inl ⟨by simp, hresult, fun _ _ => rfl⟩
  · obtain ⟨hroot, _, rfl⟩ := Disk.writeFile_eq_ok f.temporary_descends hwrite
    exact .inl ⟨by simp, hresult,
      fun place hplace => Disk.entry?_put_of_ne hroot hplace⟩
  · obtain ⟨hroot, _, rfl⟩ := Disk.writeFile_eq_ok f.temporary_descends hwrite
    obtain ⟨moved, dir, text, hfile, ht, hnames, _, rfl⟩ :=
      Disk.moveFile_eq_ok f.temporary_descends f.path_descends hmove
    rw [Disk.entry?_put hroot, if_pos rfl] at hfile
    cases hfile
    have hpath : f.path.names ≠ [] := by simp [hnames]
    have hother : ∀ place, place ≠ f.temporary.names → place ≠ f.path.names →
        Disk.entry? (((d.put f.temporary.names (.file bytes)).drop
          f.temporary.names).put
          f.path.names (.file bytes)) place = d.entry? place := by
      intro place htemporary hplace
      rw [Disk.entry?_put_of_ne hpath hplace, Disk.entry?_drop hroot,
        if_neg htemporary, Disk.entry?_put_of_ne hroot htemporary]
    refine .inr ⟨by simp, ?_, ?_, hother⟩
    · refine Disk.readFile_of_target
        (Disk.target_of_ok f.path_descends ht fun q hq => ?_) ?_
      · have hbefore : q <+: f.path.names :=
          hnames ▸ hq.trans (List.prefix_append _ _)
        have hproper : q ≠ f.path.names := by
          rintro rfl
          exact absurd (hnames ▸ hq).length_le (by simp)
        rw [hother q (temporary_apart hbefore) hproper,
          Disk.entry?_put_of_ne hroot (temporary_apart hbefore)]
      · rw [← hnames, Disk.entry?_put hpath, if_pos rfl]
    · have hwritten := Disk.look_of_writeFile f.temporary_descends hwrite
      have hdropped := Disk.look_drop f.temporary_descends hwritten
      rw [← hdropped]
      exact Disk.look_congr f.temporary_descends fun q hq =>
        Disk.entry?_put_of_ne hpath (path_apart hpath hq)

/-- Wherever a save ends, the file has its old content or the new bytes. -/
theorem readFile_of_replace {result : Option (Except LedgerError Unit)}
    (hends : (f.replace bytes).Ends d changes result d') :
    d'.readFile f.path = d.readFile f.path ∨
    d'.readFile f.path = .ok bytes := by
  rcases replace_writes hends with ⟨_, _, hsame⟩ | ⟨_, hread, _⟩
  · exact .inl (Disk.readFile_congr f.path_descends fun place hplace =>
      hsame place (temporary_apart hplace))
  · exact .inr hread

/-- What a save leaves of a ledger that is not too long to be read back. -/
theorem replace_leaves {result : Option (Except LedgerError Unit)}
    (hform : l.WrittenAs bytes) (hshort : bytes.length < UInt64.size)
    (hends : (f.replace bytes).Ends d changes result d') :
    (.moved f.temporary f.path ∉ changes ∧ result ≠ some (.ok ()) ∧
      ∀ place, place ≠ f.temporary.names → d'.entry? place = d.entry? place) ∨
    (.moved f.temporary f.path ∈ changes ∧ f.Holds d' (some l) ∧
      d'.look f.temporary = .error .notFound ∧
      ∀ place, place ≠ f.temporary.names → place ≠ f.path.names →
        d'.entry? place = d.entry? place) := by
  rcases replace_writes hends with hbefore | ⟨hmoved, hread, hgone⟩
  · exact .inl hbefore
  · exact .inr ⟨hmoved, ⟨_, hread, hform, hshort⟩, hgone⟩

/-! ## Preparing the file -/

/-- What preparing may do: take the temporary file away and make directories
around. -/
def Preparing (f : LedgerFile) (c : Change) : Prop :=
  c = .removed f.temporary ∨
    ∃ outer : Path, outer.Descends ∧ outer.names <+: f.path.names.dropLast ∧
      c = .made outer

theorem asksOnly_makeRoom (f : LedgerFile) :
    (prepare.makeRoom f).AsksOnly f.Preparing := by
  unfold prepare.makeRoom
  cases hparent : f.path.parent? with
  | none => trivial
  | some parent =>
    obtain ⟨hdescends, hnames⟩ := parent_descends hparent
    refine (Program.asksOnly_exists? parent).bind fun there => ?_
    rcases there with cause | (_ | _)
    · trivial
    · refine Program.asksOnly_makeDirectories fun outer houter =>
        .inr ⟨outer, ?_⟩
      obtain ⟨houterDescends, hbefore⟩ :=
        Path.descends_of_mem_ancestorsUpTo hdescends houter
      exact ⟨houterDescends, hnames ▸ hbefore, rfl⟩
    · trivial

theorem asksOnly_clear (f : LedgerFile) :
    (prepare.clear f).AsksOnly f.Preparing := by
  refine (Program.asksOnly_exists? f.temporary).bind fun there => ?_
  rcases there with cause | (_ | _)
  · trivial
  · trivial
  · exact ⟨.inl rfl, fun _ => trivial⟩

theorem asksOnly_prepare (f : LedgerFile) : f.prepare.AsksOnly f.Preparing := by
  refine (Program.asksOnly_isDirectory f.path).bind fun there => ?_
  cases there with
  | true => trivial
  | false =>
    refine (asksOnly_makeRoom f).bind fun room => ?_
    cases room with
    | error cause => trivial
    | ok made =>
      refine (asksOnly_clear f).bind fun cleared => ?_
      cases cleared <;> trivial

/-- What preparing does at a place: nothing, or it takes the temporary file away
there, or makes a directory that was missing around the file. -/
def Prepared (f : LedgerFile) (d d' : Disk) (place : Place) : Prop :=
  d'.entry? place = d.entry? place ∨
    (place = f.temporary.names ∧ d'.entry? place = none) ∨
    (place <+: f.path.names.dropLast ∧ d.entry? place = none ∧
      d'.entry? place = some .directory)

theorem prepared_of_take {c : Change} (hc : f.Preparing c)
    (htake : c.take d = .ok d') (place : Place) : f.Prepared d d' place := by
  rcases hc with rfl | ⟨outer, houter, hbefore, rfl⟩
  · obtain ⟨hroot, _, rfl⟩ := Disk.removeFile_eq_ok f.temporary_descends htake
    unfold Prepared
    rw [Disk.entry?_drop hroot]
    by_cases hplace : place = f.temporary.names
    · exact .inr (.inl ⟨hplace, if_pos hplace⟩)
    · exact .inl (if_neg hplace)
  · obtain ⟨hroot, hnone, rfl⟩ := Disk.makeDirectory_eq_ok houter htake
    unfold Prepared
    rw [Disk.entry?_put hroot]
    by_cases hplace : place = outer.names
    · subst hplace
      exact .inr (.inr ⟨hbefore, hnone, if_pos rfl⟩)
    · exact .inl (if_neg hplace)

theorem Prepared.trans {d₁ : Disk} {place : Place}
    (hfirst : f.Prepared d d₁ place) (hthen : f.Prepared d₁ d' place) :
    f.Prepared d d' place := by
  rcases hthen with hsame | hgone | ⟨hplace, hnone, hmade⟩
  · rw [Prepared, hsame]
    exact hfirst
  · exact .inr (.inl hgone)
  · rcases hfirst with hsame | hgone | ⟨_, _, hthere⟩
    · exact .inr (.inr ⟨hplace, hsame ▸ hnone, hmade⟩)
    · exact absurd hgone.1
        (temporary_apart (hplace.trans (List.dropLast_prefix _)))
    · rw [hnone] at hthere
      cases hthere

/-- Wherever preparing ends, it has done nothing else at any place. -/
theorem prepare_leaves {result : Option (Except LedgerError Unit)}
    (hends : f.prepare.Ends d changes result d') (place : Place) :
    f.Prepared d d' place := by
  have hallowed := (asksOnly_prepare f).allowed_of_ends
    (by rintro _ _ (rfl | ⟨_, _, _, rfl⟩) ⟨⟩) hends
  have htake := hends.foldlM_take
  clear hends
  induction changes generalizing d with
  | nil =>
    cases htake
    exact .inl rfl
  | cons c rest ih =>
    obtain ⟨hc, hrest⟩ := List.forall_mem_cons.1 hallowed
    rw [List.foldlM_cons] at htake
    cases hfirst : c.take d with
    | error cause =>
      rw [hfirst] at htake
      cases htake
    | ok d₁ =>
      rw [hfirst] at htake
      exact (prepared_of_take hc hfirst place).trans (ih hrest htake)

/-- Where the directory of the file is there, preparing touches the temporary
file only. -/
theorem Housed.prepare_leaves (hhoused : f.Housed d)
    {result : Option (Except LedgerError Unit)}
    (hends : f.prepare.Ends d changes result d') {place : Place}
    (hplace : place ≠ f.temporary.names) :
    d'.entry? place = d.entry? place := by
  rcases LedgerFile.prepare_leaves hends place with hsame | ⟨htemporary, _⟩ |
    ⟨hbefore, hnone, _⟩
  · exact hsame
  · exact absurd htemporary hplace
  · obtain ⟨e, hthere⟩ := hhoused.there hbefore
    rw [hnone] at hthere
    cases hthere

theorem run_clear (hlook : d.look f.temporary = .error .notFound) :
    (prepare.clear f).run d = (.ok (), d) := by
  simp [prepare.clear, Program.run_bind, Program.exists?, Program.run,
    hlook, pure]

theorem run_clear_of_file {bytes : Bytes}
    (hlook : d.look f.temporary = .ok (.file bytes)) :
    (prepare.clear f).run d = (.ok (), d.drop f.temporary.names) := by
  simp [prepare.clear, Program.run_bind, Program.exists?, Program.run, hlook,
    Disk.removeFile_of_look f.temporary_descends hlook, Program.outcome]

theorem run_makeRoom (hhoused : f.Housed d) :
    (prepare.makeRoom f).run d = (.ok (), d) := by
  unfold prepare.makeRoom
  cases hparent : f.path.parent? with
  | none => rfl
  | some parent =>
    obtain ⟨e, hlook⟩ := hhoused parent hparent
    simp [Program.run_bind, Program.exists?, Program.run, hlook, pure]

/-- Where there is a ledger or may be one, preparing comes to clearing away. -/
theorem run_prepare (hhoused : f.Housed d) (hkept : f.Holds d kept)
    {cleared : Disk} (hclear : (prepare.clear f).run d = (.ok (), cleared)) :
    f.prepare.run d = (.ok (), cleared) := by
  have hnot : d.look f.path ≠ .ok .directory := by
    intro hdirectory
    have hread : d.readFile f.path = .error .isDirectory := by
      simp [Disk.readFile, hdirectory, bind, Except.bind]
    cases kept with
    | none => cases hread.symm.trans hkept
    | some l =>
      obtain ⟨bytes, hbytes, _⟩ := hkept
      cases hread.symm.trans hbytes
  have hfree : (Program.isDirectory f.path).run d = (false, d) := by
    simp only [Program.isDirectory, Program.run]
  simp [prepare, Program.run_bind, hfree, run_makeRoom hhoused, hclear, pure,
    Program.run]

def Clear (f : LedgerFile) (d : Disk) : Prop :=
  d.look f.temporary = .error .notFound ∨
    ∃ bytes, d.look f.temporary = .ok (.file bytes)

/-- Preparing the file comes to its end where nothing is in its way. -/
theorem prepared_of_clear (hhoused : f.Housed d) (hkept : f.Holds d kept)
    (hclear : f.Clear d) :
    ∃ cleared, f.prepare.run d = (.ok (), cleared) ∧ f.Holds cleared kept := by
  rcases hclear with hnone | ⟨bytes, hfile⟩
  · exact ⟨d, run_prepare hhoused hkept (run_clear hnone), hkept⟩
  · refine ⟨_, run_prepare hhoused hkept (run_clear_of_file hfile), ?_⟩
    obtain ⟨hroot, _⟩ := Disk.removeFile_eq_ok f.temporary_descends
      (Disk.removeFile_of_look f.temporary_descends hfile)
    exact hkept.of_same fun place hplace => by
      rw [Disk.entry?_drop hroot, if_neg (temporary_apart hplace)]

/-! ## Interrupted saves -/

theorem Clear.of_replace {result : Option (Except LedgerError Unit)}
    (hclear : f.Clear d) (hends : (f.replace bytes).Ends d changes result d') :
    f.Clear d' := by
  rcases replace_writes hends with ⟨hunmoved, _⟩ | ⟨_, _, hnone, _⟩
  · rcases replace_cases hends with ⟨_, rfl, _⟩ | ⟨start, _, hwrite, _⟩ |
      ⟨_, rfl, _⟩
    · exact hclear
    · exact .inr ⟨start, Disk.look_of_writeFile f.temporary_descends hwrite⟩
    · exact absurd (by simp) hunmoved
  · exact .inl hnone

theorem Housed.of_same_apart (hhoused : f.Housed d)
    (hsame : ∀ place, place ≠ f.temporary.names → place ≠ f.path.names →
      d'.entry? place = d.entry? place) : f.Housed d' := by
  intro parent hparent
  have hsome := names_of_parent hparent
  refine hhoused.of_same (fun place hplace => hsame place ?_ ?_) parent hparent
  · exact temporary_apart (hplace.trans (List.dropLast_prefix _))
  · exact path_apart hsome
      (f.temporary_names ▸ hplace.trans (List.prefix_append _ _))

theorem replace_outcome {result : Option (Except LedgerError Unit)}
    (hhoused : f.Housed d) (hkept : f.Holds d kept) (hform : l.WrittenAs bytes)
    (hshort : bytes.length < UInt64.size)
    (hends : (f.replace bytes).Ends d changes result d') :
    ∃ kept', f.Holds d' kept' ∧ f.Housed d' ∧
      ((kept' = kept ∧ .moved f.temporary f.path ∉ changes) ∨
        (kept' = some l ∧ .moved f.temporary f.path ∈ changes)) ∧
      (result = some (.ok ()) → kept' = some l) ∧
      ∀ place, place ≠ f.temporary.names → place ≠ f.path.names →
        d'.entry? place = d.entry? place := by
  rcases replace_leaves hform hshort hends with
    ⟨hunmoved, hundone, hsame⟩ | ⟨hmoved, hnew, _, hsame⟩
  · exact ⟨kept, hkept.of_same fun place hplace =>
      hsame place (temporary_apart hplace),
      hhoused.of_same_apart fun place hplace _ => hsame place hplace,
      .inl ⟨rfl, hunmoved⟩,
      fun hdone => absurd hdone hundone,
      fun place hplace _ => hsame place hplace⟩
  · exact ⟨some l, hnew, hhoused.of_same_apart hsame, .inr ⟨rfl, hmoved⟩,
      fun _ => rfl, hsame⟩

/-- A save is all or nothing, in whatever order the tables of the ledger are
written.  Wherever it is stopped and whatever fails, what is loaded afterwards
is what was loaded before, or the new ledger if the move took place; and a save
that says that it is done has put the new ledger there.  It touches the ledger
file and the temporary file only.  Preparing the file again, be it stopped or
refused as well, changes nothing but the temporary file, and run to its end
takes it away.  On any tree preparing makes no changes but this and the
directories that are missing around the file. -/
theorem save_all_or_nothing (hhoused : f.Housed d) (hkept : f.Holds d kept)
    (hshort : l.encode.length < UInt64.size) :
    (∃ bytes, l.WrittenAs bytes ∧ f.save l = f.replace bytes) ∧
    (f.load.run d).1 = .ok kept ∧
    (∀ bytes, l.WrittenAs bytes → ∀ changes result d',
      (f.replace bytes).Ends d changes result d' →
      (((f.load.run d').1 = .ok kept ∧ .moved f.temporary f.path ∉ changes) ∨
        ((f.load.run d').1 = .ok (some l) ∧
          .moved f.temporary f.path ∈ changes)) ∧
      (result = some (.ok ()) → (f.load.run d').1 = .ok (some l)) ∧
      (∀ place, place ≠ f.temporary.names → place ≠ f.path.names →
        d'.entry? place = d.entry? place) ∧
      (∀ later outcome d'', f.prepare.Ends d' later outcome d'' →
        (f.load.run d'').1 = (f.load.run d').1 ∧
        ∀ place, place ≠ f.temporary.names →
          d''.entry? place = d'.entry? place) ∧
      (∀ left, d'.look f.temporary = .ok (.file left) →
        (f.prepare.run d').1 = .ok () ∧
        (f.prepare.run d').2.look f.temporary = .error .notFound)) ∧
    (∀ around changes result around',
      f.prepare.Ends around changes result around' →
      ∀ place, f.Prepared around around' place) := by
  refine ⟨⟨_, l.writtenAs_encode, rfl⟩, load_of_holds hkept,
    fun bytes hform changes result d' hends => ?_,
    fun _ _ _ _ hends => prepare_leaves hends⟩
  obtain ⟨kept', hkept', hhoused', hvisible, hdone, htouched⟩ :=
    replace_outcome hhoused hkept hform (hform.length_eq ▸ hshort) hends
  have hload := load_of_holds hkept'
  refine ⟨?_, fun hresult => hdone hresult ▸ hload, htouched, ?_, ?_⟩
  · rcases hvisible with ⟨rfl, hunmoved⟩ | ⟨rfl, hmoved⟩
    · exact .inl ⟨hload, hunmoved⟩
    · exact .inr ⟨hload, hmoved⟩
  · intro later outcome d'' hprepare
    have hsame : ∀ place, place ≠ f.temporary.names →
        d''.entry? place = d'.entry? place :=
      fun _ hplace => hhoused'.prepare_leaves hprepare hplace
    refine ⟨?_, hsame⟩
    rw [hload]
    exact load_of_holds
      (hkept'.of_same fun place hplace => hsame place (temporary_apart hplace))
  · intro left hlook
    rw [run_prepare hhoused' hkept' (run_clear_of_file hlook)]
    exact ⟨rfl, Disk.look_drop f.temporary_descends hlook⟩

def standardWith (l : Ledger) : Disk :=
  ⟨.ofList [(["var"], .directory), (["var", "lib"], .directory),
    (["var", "lib", "herald"], .directory),
    (["var", "lib", "herald", "resend.ledger"], .file l.encode)], []⟩

theorem run_save_standard (l new : Ledger) :
    (standard.save new).run (standardWith l) = (.ok (), standardWith new) := rfl

def standardCut (l new : Ledger) (count : Nat) : Disk :=
  (standardWith l).put ["var", "lib", "herald", ".tmp_resend.ledger"]
    (.file (new.encode.take count))

theorem save_cut_standard :
    (standard.save .misfiled).Ends (standardWith .empty)
      [.written standard.temporary (Ledger.misfiled.encode.take 20)] none
      (standardCut .empty .misfiled 20) ∧
    (standard.load.run (standardCut .empty .misfiled 20)).1 =
      .ok (some .empty) ∧
    (standard.prepare.run (standardCut .empty .misfiled 20)).1 = .ok () ∧
    (standard.prepare.run (standardCut .empty .misfiled 20)).2.look
      standard.temporary =
      .error .notFound := by
  have hends : (standard.save .misfiled).Ends (standardWith .empty)
      [.written standard.temporary (Ledger.misfiled.encode.take 20)] none
      (standardCut .empty .misfiled 20) :=
    .cut rfl (.written _ (List.take_prefix _ _)) rfl
  have hhoused : standard.Housed (standardWith .empty) := by
    intro parent hparent
    have hherald : standard.path.parent? = some ⟨"/var/lib/herald"⟩ := rfl
    cases hherald.symm.trans hparent
    exact ⟨.directory, rfl⟩
  have hkept : standard.Holds (standardWith .empty) (some .empty) :=
    ⟨_, rfl, Ledger.writtenAs_encode _, by decide⟩
  obtain ⟨_, _, hsave, _⟩ :=
    save_all_or_nothing hhoused hkept (l := .misfiled) (by decide)
  obtain ⟨hvisible, _, _, _, hcleared⟩ :=
    hsave _ (Ledger.writtenAs_encode _) _ _ _ hends
  obtain ⟨hprepared, hgone⟩ := hcleared _ rfl
  refine ⟨hends, ?_, hprepared, hgone⟩
  exact (hvisible.resolve_right fun hmoved => absurd hmoved.2 (by simp)).1

end Redelivery.LedgerFile
