import Redelivery.Node
import Redelivery.Proofs.Disk.Interleaving
import Redelivery.Proofs.Ledger.File
import Redelivery.Proofs.Resend.Shutdown

/-!
# What a restart loses

When a node has been stopped and nothing was left behind, its file holds the
ledger as it was at the shutdown.  What is still under way then can only save
this ledger once more, or be stopped while it does so, and nothing of that
changes what is loaded.  Loading prunes the ledger, but it drops no more than
the old service would have kept silent about, so the new one answers as the old
one did.

A task that is ended while it saves gives its turn away, but its write is not
taken back.  If the write comes to its end in the midst of the last save, it is
moved into the place of the ledger, and the node begins again with what that
task had copied.
-/

namespace Redelivery

/-! ## Answers -/

namespace Service

/-- Two services answer alike whatever they are asked about their messages. -/
structure AnswersAs (s t : Service) : Prop where
  record : ∀ id, t.record? id = s.record? id
  attempts : ∀ id, (s.record? id).isSome = true →
    t.attempts? id = s.attempts? id
  pending : t.pendingRecords = s.pendingRecords
  manual : ∀ id, t.canManuallyResend id = s.canManuallyResend id

/-- Nothing is in the service but what is alive, and nothing is due. -/
structure Clean (s : Service) : Prop where
  live : ∀ id r, s.ledger.get? id = some r → r.isExpired s.calendar = false
  counted : s.ledger.Counted
  unarmed : ∀ id, s.scheduler.isArmed id = false

variable {s t : Service}

/-- Pruning goes unnoticed. -/
theorem answersAs_of_prune (hkeyed : s.ledger.Keyed)
    (hledger : t.ledger = s.ledger.prune s.calendar)
    (hconfig : t.config = s.config) (hcalendar : t.calendar = s.calendar) :
    s.AnswersAs t := by
  have hrecord : ∀ id, t.record? id = s.record? id := by
    intro id
    rw [record?, hledger, hcalendar, Ledger.find?_prune, record?]
  have hattempts : ∀ id, (s.record? id).isSome = true →
      t.attempts? id = s.attempts? id := by
    intro id hlive
    rw [record?] at hlive
    rw [attempts?, hledger, Ledger.attempts?_prune, hlive, attempts?]
    cases s.ledger.attempts? id <;> rfl
  refine ⟨hrecord, hattempts, ?_, ?_⟩
  · rw [pendingRecords, hledger, hcalendar, hkeyed.listing_prune,
      List.filter_filter, pendingRecords]
    refine List.filter_congr fun r _ => ?_
    cases r.isExpired s.calendar <;> simp
  · intro id
    rw [canManuallyResend, canManuallyResend, hrecord, hconfig]
    cases hlive : (s.record? id).isSome with
    | false => rfl
    | true => rw [hattempts id hlive]

theorem clean_of_prune {l : Ledger} (hledger : s.ledger = l.prune s.calendar)
    (hscheduler : s.scheduler = .empty) : s.Clean where
  live := by
    intro id r hr
    rw [hledger, Ledger.get?_prune, Ledger.find?_eq_some_iff] at hr
    exact hr.2
  counted := hledger ▸ Ledger.counted_restored (some l) s.calendar
  unarmed := by
    intro id
    rw [hscheduler]
    rfl

end Service

/-! ## The file of a service -/

/-- A task is ended by an event, in the midst of a save of a ledger. -/
def Service.Abandons (s : Service) (e : Event) (copy : Ledger) : Prop :=
  ∃ task, s.Saves task copy ∧ (s.step e).tasks.get? task = none ∧
    ∀ saved, e ≠ .resume task saved

namespace LedgerFile

variable {f : LedgerFile} {d d' : Disk} {l copy : Ledger} {bytes : Bytes}
  {left left' : List Change} {changes : List Change} {s t : Service}
  {events : List Event}

/-- The file backs a service as it goes on.  What a task saves is written to the
file, and the task goes on by how that ends.  When a task is ended in the midst
of its save, the operation that it waited for is left behind; it comes to its
end at any time later, also in the midst of another save.  Nothing else touches
the tree. -/
inductive Backs (f : LedgerFile) :
    Service → Disk → List Change → List Event → Service → Disk →
    List Change → Prop
  | stay (s : Service) (d : Disk) (left : List Change) :
      Backs f s d left [] s d left
  | pass {s t : Service} {d d' : Disk} {left left' : List Change} {e : Event}
      {rest : List Event} (hpass : ∀ task saved copy, e = .resume task saved →
        ¬s.Saves task copy) (hkeeps : ∀ copy, ¬s.Abandons e copy)
      (hrest : Backs f (s.step e) d left rest t d' left') :
      Backs f s d left (e :: rest) t d' left'
  | save {s t : Service} {d d₁ d' : Disk} {left left₁ left' : List Change}
      {task : Nat} {copy : Ledger} {bytes : Bytes}
      {result : Except LedgerError Unit} {rest : List Event}
      (hsaves : s.Saves task copy) (hform : copy.WrittenAs bytes)
      (hends : (f.replace bytes).GoesAmid d left (.done result) d₁ left₁)
      (hrest : Backs f (s.step (.resume task result.isOk)) d₁ left₁ rest
        t d' left') :
      Backs f s d left (.resume task result.isOk :: rest) t d' left'
  | abandon {s t : Service} {d d₁ d' : Disk} {left left₁ left' : List Change}
      {e : Event} {copy : Ledger} {bytes : Bytes} {rest : List Event}
      {ended : Program (Except LedgerError Unit)}
      (habandons : s.Abandons e copy)
      (hform : copy.WrittenAs bytes)
      (hgoes : (f.replace bytes).GoesAmid d left ended d₁ left₁)
      (hrest : Backs f (s.step e) d₁ (left₁ ++ ended.awaited) rest t d' left') :
      Backs f s d left (e :: rest) t d' left'
  | land {s t : Service} {d d₁ d' : Disk} {left left₁ left' : List Change}
      {rest : List Event} (hlands : Program.Lands d left d₁ left₁)
      (hrest : Backs f s d₁ left₁ rest t d' left') :
      Backs f s d left rest t d' left'

/-- A ledger is saved to the end, its tables in any order, beside what was left
behind. -/
def SavedAmid (f : LedgerFile) (l : Ledger) (d : Disk) (left : List Change)
    (d' : Disk) (left' : List Change) : Prop :=
  ∃ bytes, l.WrittenAs bytes ∧
    (f.replace bytes).GoesAmid d left (.done (.ok ())) d' left'

/-- What is on the tree when the service is gone: a save that was under way may
have been stopped wherever it was. -/
def Leaves (f : LedgerFile) (s : Service) (d d' : Disk) : Prop :=
  d' = d ∨ ∃ task copy bytes changes, s.Saves task copy ∧ copy.WrittenAs bytes ∧
    (f.replace bytes).Ends d changes none d'

/-- The file holds a ledger, and nothing keeps it from being prepared. -/
structure Intact (f : LedgerFile) (d : Disk) (l : Ledger) : Prop where
  housed : f.Housed d
  holds : f.Holds d (some l)
  clear : f.Clear d

theorem Backs.run_eq (hbacks : f.Backs s d left events t d' left') :
    t = s.run events := by
  induction hbacks with
  | stay => rfl
  | pass _ _ _ ih | save _ _ _ _ ih | abandon _ _ _ _ ih
  | land _ _ ih => exact ih

/-- A save that is done leaves the file intact, whatever was on the tree
before. -/
theorem intact_of_saved (hform : l.WrittenAs bytes)
    (hshort : bytes.length < UInt64.size)
    (hends : (f.replace bytes).Ends d changes (some (.ok ())) d') :
    f.Intact d' l := by
  rcases replace_leaves hform hshort hends with
    ⟨_, hundone, _⟩ | ⟨hmoved, hholds, hnone, hsame⟩
  · exact absurd rfl hundone
  · refine ⟨?_, hholds, .inl hnone⟩
    rcases replace_cases hends with ⟨_, _, hundone⟩ | ⟨_, _, _, hundone⟩ |
      ⟨_, _, hwrite, _⟩
    · exact absurd rfl hundone
    · exact absurd rfl hundone
    · exact (housed_of_writeFile hwrite).of_same_apart hsame

/-- Saving the same ledger again leaves the file intact, wherever it ends. -/
theorem Intact.of_replace (hintact : f.Intact d l) (hform : l.WrittenAs bytes)
    (hshort : bytes.length < UInt64.size)
    {result : Option (Except LedgerError Unit)}
    (hends : (f.replace bytes).Ends d changes result d') : f.Intact d' l := by
  obtain ⟨kept, hholds, hhoused, hkept, _⟩ :=
    replace_outcome hintact.housed hintact.holds hform hshort hends
  have hsame : kept = some l := hkept.elim And.left And.left
  exact ⟨hhoused, hsame ▸ hholds, hintact.clear.of_replace hends⟩

/-- As long as whatever the service saves is this ledger and no task is ended in
the midst of its save, the file stays intact. -/
theorem Intact.of_backs (hintact : f.Intact d l)
    (hshort : l.encode.length < UInt64.size)
    (hbacks : f.Backs s d [] events t d' left')
    (hcopies : ∀ before task copy, (s.run before).Saves task copy → copy = l)
    (hkeeps : ∀ before e copy, ¬(s.run before).Abandons e copy) :
    f.Intact d' l := by
  generalize hnone : ([] : List Change) = left at hbacks
  induction hbacks with
  | stay => exact hintact
  | pass _ _ _ ih =>
    exact ih hintact (fun before => hcopies (_ :: before))
      (fun before => hkeeps (_ :: before)) hnone
  | save hsaves hform hends _ ih =>
    subst hnone
    obtain rfl := hcopies [] _ _ hsaves
    obtain ⟨rfl, changes, hends⟩ := hends.ends
    exact ih (hintact.of_replace hform (hform.length_eq ▸ hshort) hends)
      (fun before => hcopies (_ :: before))
      (fun before => hkeeps (_ :: before)) rfl
  | abandon habandons => exact absurd habandons (hkeeps [] _ _)
  | land hlands =>
    subst hnone
    exact absurd hlands Program.not_lands_nil

theorem Intact.of_leaves (hintact : f.Intact d l)
    (hshort : l.encode.length < UInt64.size)
    (hcopies : ∀ task copy, s.Saves task copy → copy = l)
    (hleaves : f.Leaves s d d') :
    f.Intact d' l := by
  rcases hleaves with rfl | ⟨task, copy, bytes, changes, hsaves, hform, hends⟩
  · exact hintact
  · obtain rfl := hcopies task copy hsaves
    exact hintact.of_replace hform (hform.length_eq ▸ hshort) hends

/-- Where a save can be done, it can be done although a write that was left
behind comes in between; then the file holds what that write has written. -/
theorem intact_of_outrun (hcopy : copy.WrittenAs bytes)
    (hshort : bytes.length < UInt64.size) {own : Bytes}
    (hends : (f.replace own).Ends d changes (some (.ok ())) d') :
    ∃ d₁, (f.replace own).GoesAmid d [.written f.temporary bytes]
      (.done (.ok ())) d₁ [] ∧
      f.Intact d₁ copy := by
  rcases replace_cases hends with ⟨_, _, hundone⟩ | ⟨_, _, _, hundone⟩ |
    ⟨e, _, hwrite, hmove⟩
  · exact absurd rfl hundone
  · exact absurd rfl hundone
  · obtain ⟨e', hagain⟩ :=
      Disk.writeFile_of_writeFile f.temporary_descends hwrite bytes
    obtain ⟨d₁, hmoved⟩ := Disk.moveFile_of_writeFile f.temporary_descends
      f.path_descends hmove hagain fun q hq => temporary_apart hq
    have hlands : Program.Lands e [.written f.temporary bytes] e' [] :=
      @Program.Lands.taken [] [] _ _ _ hagain
    refine ⟨d₁, .goes (.taken rfl hwrite) (.lands hlands
      (.goes (.taken rfl hmoved) (.stays _ _ _))), ?_⟩
    have hsaved : (f.replace bytes).Ends e
        [.written f.temporary bytes, .moved f.temporary f.path]
          (some (.ok ())) d₁ :=
      .taken rfl hagain (.taken rfl hmoved (.done _ _))
    exact intact_of_saved hcopy hshort hsaved

/-! ## Starting over the file -/

/-- Over an intact file, a node begins to run with what is alive of the ledger
in it. -/
theorem Intact.run_build (hintact : f.Intact d l) {settings : Settings}
    (around : Service) (hstore : settings.store = .file f.path) :
    ∃ fresh cleared, (settings.build around).run d =
      (.ok (.file f, fresh), cleared) ∧
      fresh.config = settings.resend ∧ fresh.ledger = l.prune around.calendar ∧
      fresh.scheduler = .empty ∧ fresh.calendar = around.calendar := by
  obtain ⟨cleared, hprepare, hholds⟩ :=
    prepared_of_clear hintact.housed hintact.holds hintact.clear
  have hopen :
      (OpenStore.ofSettings settings).run d = (.ok (.file f), cleared) := by
    simp [OpenStore.ofSettings, hstore, f.at?_path, Program.run_bind, hprepare,
      pure, Program.run]
  have hload : f.load.run cleared = (.ok (some l), cleared) :=
    Prod.ext (load_of_holds hholds) (run_load f cleared)
  let loaded : Service :=
    { around with config := settings.resend, kept := some l }
  obtain ⟨hconfig, hledger, hscheduler, _, _, _, _, _, _, hcalendar⟩ :=
    Service.begun_frame loaded.reload
  refine ⟨loaded.reload.begun, cleared, ?_, hconfig, hledger, hscheduler,
    hcalendar⟩
  rw [← Service.step_start rfl rfl]
  simp [Settings.build, Program.run_bind, hopen, OpenStore.load, hload, pure,
    Program.run, loaded]

end LedgerFile

/-! ## Restarts -/

namespace Service

variable {f : LedgerFile} {d d₀ d₁ d' : Disk} {left left₀ : List Change}
  {start s stopped t around : Service} {e : Event} {task : Nat} {copy : Ledger}

/-- After the end, a task does not end but by its own doing. -/
theorem Transition.keeps_of_shutDown (htransition : Transition s e t)
    (hshut : s.shutDown = true) {routine : Routine}
    (htask : s.tasks.get? task = some routine)
    (hother : ∀ saved, e ≠ .resume task saved) : t.tasks.get? task ≠ none := by
  have hnot : s.shutDown ≠ false := by simp [hshut]
  have hspawn (routine : Routine) :
      (s.spawn routine).tasks.get? task ≠ none := by
    rw [tasks_spawn]
    split <;> simp [htask]
  have hset {worker : Nat} {saved : Bool} {left : Routine} {u : Service}
      (hturn : e = .resume worker saved) (hsame : u.tasks = s.tasks) :
      (u.setRoutine worker left).tasks.get? task ≠ none := by
    have hne : task ≠ worker := by
      rintro rfl
      exact hother saved hturn
    simp [tasks_setRoutine, if_neg hne, hsame, htask]
  cases htransition with
  | idle | report | forget | setNode | pass | setCalendar | lapse =>
    simp [htask]
  | refuse | sweep => exact hspawn _
  | hear => exact hset rfl (by rw [attachTracked_of_shutDown hshut])
  | rescan => exact hset rfl (by rw [attachKnown_of_shutDown hshut])
  | drop | leave => exact hset rfl rfl
  | chore _ _ _ _ _ _ _ hchore => cases hchore <;> exact hset rfl rfl
  | restate _ _ _ _ _ _ hhears => exact absurd hhears.running hnot
  | _ => exact absurd ‹s.shutDown = false› hnot

theorem not_abandons_of_shutDown (hshut : s.shutDown = true) :
    ¬s.Abandons e copy := by
  rintro ⟨task, ⟨next, htask⟩, hended, hother⟩
  exact (transition_step s e).keeps_of_shutDown hshut htask hother hended

/-- A node whose service is shut down already is stopped by a save of its
ledger. -/
theorem savedAmid_of_serve (hshut : s.shutDown = true) {store : OpenStore}
    (hserved : (s.serve (.file f)).run d = ((.ok (), store, stopped), d'))
    (left : List Change) :
    stopped = s ∧ f.SavedAmid s.ledger d left d' left := by
  simp only [serve, step_shutdown_of_shutDown hshut, OpenStore.save,
    Program.run_bind, pure, Program.run, Prod.mk.injEq] at hserved
  obtain ⟨⟨hresult, _, rfl⟩, rfl⟩ := hserved
  have hgoes := Program.goesAmid_run (f.save s.ledger) d left
  rw [hresult] at hgoes
  exact ⟨rfl, s.ledger.encode, s.ledger.writtenAs_encode, hgoes⟩

/-- A service that was shut down and saves no more leaves its ledger in the
file: once it has been saved with nothing left behind, only the same ledger is
saved again. -/
theorem Over.intact (hover : s.Over stopped) (hfree : stopped.isWriting = false)
    (hshort : s.ledger.encode.length < UInt64.size)
    (hsaved : f.SavedAmid stopped.ledger d [] d₁ left) {later : List Event}
    {d₂ d₃ : Disk} {left₂ : List Change}
    (hlater : f.Backs stopped d₁ left later t d₂ left₂)
    (hgone : f.Leaves t d₂ d₃) : f.Intact d₃ s.ledger := by
  obtain ⟨bytes, hform, hsaved⟩ := hsaved
  obtain ⟨rfl, changes, hends⟩ := hsaved.ends
  have hcopies : ∀ events task copy, (stopped.run events).Saves task copy →
      copy = s.ledger := by
    intro events task copy hsaves
    rcases (hover.refl.run events).copies task copy hsaves with hcopy | hbefore
    · exact hcopy.trans hover.ledger
    · exact absurd hbefore (not_saves_of_isWriting hfree)
  have hkeeps : ∀ events e copy, ¬(stopped.run events).Abandons e copy :=
    fun events _ _ => not_abandons_of_shutDown (hover.run events).shutDown
  rw [hover.ledger] at hform
  have hafter :=
    LedgerFile.intact_of_saved hform (hform.length_eq ▸ hshort) hends
  refine (hafter.of_backs hshort hlater hcopies hkeeps).of_leaves
    hshort ?_ hgone
  rw [hlater.run_eq]
  exact hcopies later

/-- What a restart loses.  A service over a file is stopped wherever it is in
its run: it is shut down and goes on until no save is under way, for which the
last one waits.

If no operation of a task that was ended in the midst of its save is left behind
then, nothing is lost.  The ledger is saved on whatever tree is there; however
the service goes on after that, and wherever a save is stopped when it is gone,
a node begins to run over the file, and with the same settings and at the same
time it answers as the service does.  Nothing in it is expired, or counted
without a record, and no timer is armed.

But if the write of such a task is left behind, and the last save can be done at
all, then it can be done without an error although that write comes in between;
and the node begins to run with what is alive of the ledger that the task had
copied. -/
theorem answersAs_of_restart (hstart : start.Fresh) {before : List Event}
    (hs : s = start.run before) (hkeyed : s.ledger.Keyed)
    (hshort : s.ledger.encode.length < UInt64.size) {waiting : List Event}
    (hstopped : f.Backs s d₀ left₀ (.shutdown :: waiting) stopped d left)
    (hfree : stopped.isWriting = false) {settings : Settings}
    (hstore : settings.store = .file f.path)
    (hconfig : settings.resend = s.config) :
    (left = [] → ∀ d₁ left₁, f.SavedAmid stopped.ledger d left d₁ left₁ →
      ∀ later t d₂ left₂ d₃, f.Backs stopped d₁ left₁ later t d₂ left₂ →
        f.Leaves t d₂ d₃ →
      ∀ around : Service, around.calendar = t.calendar →
        ∃ fresh d₄, (settings.build around).run d₃ =
          (.ok (.file f, fresh), d₄) ∧
          t.AnswersAs fresh ∧ fresh.Clean) ∧
    (∀ (copy : Ledger) (bytes : Bytes), left = [.written f.temporary bytes] →
      copy.WrittenAs bytes → bytes.length < UInt64.size →
      ∀ d₁, f.SavedAmid stopped.ledger d [] d₁ [] →
      ∃ d₂, f.SavedAmid stopped.ledger d left d₂ [] ∧
        ∀ around : Service, ∃ fresh d₃,
          (settings.build around).run d₂ = (.ok (.file f, fresh), d₃) ∧
          fresh.ledger = copy.prune around.calendar) := by
  have hover : s.Over stopped := by
    rw [hstopped.run_eq, hs]
    exact (over_shutdown (silent_run hstart before)
      (saving_run hstart.saving before)).run waiting
  constructor
  · rintro rfl d₁ left₁ hsaved later t d₂ left₂ d₃ hlater hgone around hcalendar
    obtain ⟨fresh, cleared, hbuilt, hfresh, hledger, hscheduler, hread⟩ :=
      (hover.intact hfree hshort hsaved hlater hgone).run_build around hstore
    have ht := hlater.run_eq
    have hended : s.Over t := ht ▸ hover.run later
    have hlasting : t.config = s.config := by
      rw [ht, config_run, hstopped.run_eq, config_run]
    rw [hcalendar, ← hended.ledger] at hledger
    refine ⟨fresh, cleared, hbuilt, ?_, ?_⟩
    · refine answersAs_of_prune (hended.ledger ▸ hkeyed) hledger ?_
        (hread.trans hcalendar)
      rw [hfresh, hconfig, hlasting]
    · exact clean_of_prune (by rw [hledger, hread, hcalendar]) hscheduler
  · rintro copy bytes rfl hform hlength d₁ ⟨own, hown, hsaved⟩
    obtain ⟨_, changes, hends⟩ := hsaved.ends
    obtain ⟨d₂, hamid, hintact⟩ :=
      LedgerFile.intact_of_outrun hform hlength hends
    refine ⟨d₂, ⟨own, hown, hamid⟩, fun around => ?_⟩
    obtain ⟨fresh, cleared, hbuilt, _, hledger, _⟩ :=
      hintact.run_build around hstore
    exact ⟨fresh, cleared, hbuilt, hledger⟩

def halfway : Service :=
  (Service.new .standard (.restored none 0) default 0).run underWay

theorem reachable_halfway : halfway.Reachable :=
  ⟨_, _, fresh_new .standard none 0 default 0, Ledger.keyed_empty, rfl⟩

/-- The message whose attempt was claimed is found again with its counter,
though the save before its sending was stopped. -/
theorem answersAs_of_restart_halfway :
    ∃ fresh d, (Settings.standard.build halfway).run
        (LedgerFile.standardCut halfway.ledger halfway.ledger 20) =
          (.ok (.file .standard, fresh), d) ∧
      fresh.record? ⟨"m1"⟩ = some (.waiting ⟨"m1"⟩) ∧
      fresh.attempts? ⟨"m1"⟩ = some 2 := by
  have hs : halfway =
      (Service.new .standard (.restored none 0) default 0).run underWay := rfl
  have hkeyed : halfway.ledger.Keyed := reachable_halfway.coherent.ledger.keyed
  have hstopped :
      LedgerFile.standard.Backs halfway (LedgerFile.standardWith .empty) []
      [.shutdown] (halfway.step .shutdown)
      (LedgerFile.standardWith .empty) [] := by
    refine .pass nofun ?_ (.stay _ _ _)
    rintro copy ⟨task, hsaves, _⟩
    exact not_saves_of_isWriting rfl hsaves
  have hserved : ((halfway.step .shutdown).serve (.file .standard)).run
      (LedgerFile.standardWith .empty) =
        ((.ok (), .file .standard, halfway.step .shutdown),
        LedgerFile.standardWith halfway.ledger) := rfl
  have hlater : LedgerFile.standard.Backs (halfway.step .shutdown)
      (LedgerFile.standardWith halfway.ledger) [] [.resume 1 true]
      ((halfway.step .shutdown).step (.resume 1 true))
      (LedgerFile.standardWith halfway.ledger) [] := by
    refine .pass ?_ (fun _ => not_abandons_of_shutDown rfl) (.stay _ _ _)
    rintro task saved copy ⟨⟩ ⟨next, htask⟩
    cases htask
  have hgone :
      LedgerFile.standard.Leaves
        ((halfway.step .shutdown).step (.resume 1 true))
        (LedgerFile.standardWith halfway.ledger)
      (LedgerFile.standardCut halfway.ledger halfway.ledger 20) :=
    .inr ⟨1, halfway.ledger, _, _, ⟨_, rfl⟩, Ledger.writtenAs_encode _,
      .cut rfl (.written _ (List.take_prefix _ _)) rfl⟩
  have hcalendar : halfway.calendar =
      ((halfway.step .shutdown).step (.resume 1 true)).calendar := rfl
  have hstore : Settings.standard.store = .file LedgerFile.standard.path := rfl
  obtain ⟨hcalm, -⟩ :=
    answersAs_of_restart (fresh_new .standard none 0 default 0) hs hkeyed
      (by decide) hstopped rfl hstore rfl
  obtain ⟨fresh, d, hbuilt, hanswers, _⟩ :=
    hcalm rfl _ [] (savedAmid_of_serve rfl hserved []).2 _ _ _ _ _ hlater hgone
      _ hcalendar
  refine ⟨fresh, d, hbuilt, ?_, ?_⟩
  · rw [hanswers.record]
    rfl
  · rw [hanswers.attempts]
    · rfl
    · rfl

/-- A service that is saving the status of a message, while the user asks for
the message to be sent again. -/
def outrun : Service :=
  following.run
    [.report ⟨"m1"⟩ .failed, .resume 2 true, .resume 2 true, .resend ⟨"m1"⟩]

def outrunEnd : Service :=
  outrun.run [.shutdown, .resume 3 true, .resume 3 true]

def outrunCopy : Ledger :=
  Ledger.empty.upsert ((Record.waiting ⟨"m1"⟩).withStatus .failed)

/-- The last save ends without an error, but the write of the task that was
ended comes in between, and the attempt that was claimed is forgotten. -/
theorem restart_outrun :
    ∃ d d' fresh d'', outrun.Reachable ∧
      LedgerFile.standard.Backs outrun (LedgerFile.standardWith .empty) []
        [.shutdown, .resume 3 true, .resume 3 true] outrunEnd d
        [.written LedgerFile.standard.temporary outrunCopy.encode] ∧
      outrunEnd.isWriting = false ∧
      LedgerFile.standard.SavedAmid outrunEnd.ledger d
        [.written LedgerFile.standard.temporary outrunCopy.encode] d' [] ∧
      (Settings.standard.build outrunEnd).run d' =
        (.ok (.file .standard, fresh), d'') ∧
      outrunEnd.attempts? ⟨"m1"⟩ = some 2 ∧ fresh.attempts? ⟨"m1"⟩ = none ∧
      ¬outrunEnd.AnswersAs fresh := by
  have habandons : outrun.Abandons .shutdown outrunCopy :=
    ⟨2, ⟨_, rfl⟩, rfl, nofun⟩
  have hsaves :
      (outrun.run [.shutdown, .resume 3 true]).Saves 3 outrun.ledger := ⟨_, rfl⟩
  have hbacks :
      LedgerFile.standard.Backs outrun (LedgerFile.standardWith .empty) []
        [.shutdown, .resume 3 true, .resume 3 true] outrunEnd
        (LedgerFile.standardWith outrun.ledger)
      [.written LedgerFile.standard.temporary outrunCopy.encode] := by
    refine .abandon habandons outrunCopy.writtenAs_encode (.stays _ _ _)
      (.pass ?_ (fun _ => not_abandons_of_shutDown rfl) ?_)
    · rintro task saved copy ⟨⟩ ⟨next, htask⟩
      cases htask
    · have hgoes :=
        Program.goesAmid_run (LedgerFile.standard.save outrun.ledger)
          (LedgerFile.standardWith .empty)
          [.written LedgerFile.standard.temporary outrunCopy.encode]
      rw [LedgerFile.run_save_standard] at hgoes
      exact .save hsaves outrun.ledger.writtenAs_encode hgoes (.stay _ _ _)
  obtain ⟨changes, hends⟩ :=
    Program.ends_run (LedgerFile.standard.save outrunEnd.ledger)
      (LedgerFile.standardWith outrun.ledger)
  rw [LedgerFile.run_save_standard] at hends
  obtain ⟨d', hamid, hintact⟩ :=
    LedgerFile.intact_of_outrun outrunCopy.writtenAs_encode (by decide) hends
  have hstore : Settings.standard.store = .file LedgerFile.standard.path := rfl
  obtain ⟨fresh, d'', hbuilt, _, hledger, _⟩ :=
    hintact.run_build outrunEnd hstore
  have hlost : fresh.attempts? ⟨"m1"⟩ = none := by
    rw [attempts?, hledger]
    rfl
  have hcounted : outrunEnd.attempts? ⟨"m1"⟩ = some 2 := rfl
  refine ⟨_, d', fresh, d'', reachable_following.run _, hbacks, rfl,
    ⟨_, outrunEnd.ledger.writtenAs_encode, hamid⟩, hbuilt, hcounted, hlost, ?_⟩
  intro hanswers
  have hsame := hanswers.attempts ⟨"m1"⟩ rfl
  rw [hlost, hcounted] at hsame
  cases hsame

end Service

end Redelivery
