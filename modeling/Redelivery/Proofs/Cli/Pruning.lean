import Redelivery.Cli.Tool
import Redelivery.Proofs.Ledger.File
import Redelivery.Proofs.Ledger.Pruning

/-!
# Pruning a file is not noticed

Whoever loads a ledger drops what has expired by then.  So it makes no
difference whether the tool has pruned the file before, or was stopped while it
did: what is loaded afterwards is the same ledger, or refused for the same
cause.
-/

namespace Redelivery

variable {f : LedgerFile} {config : ResendConfig} {d d' : Disk}
  {now first later : UInt64}
  {dryRun : Bool} {changes : List Change}

namespace Cli

/-- Wherever the tool stops when it prunes a file, the file has its old content,
or it had a ledger and has what is left of that. -/
theorem prune_leaves {result : Option (Except ToolError String)}
    (hends : (prune f dryRun now).Ends d changes result d') :
    d'.readFile f.path = d.readFile f.path ∨
      ∃ bytes l, d.readFile f.path = .ok bytes ∧ Ledger.decode bytes = .ok l ∧
        d'.readFile f.path = .ok (l.prune now).encode := by
  rcases hends.of_bind with ⟨hstopped, -⟩ |
    ⟨before, kept, d₁, after, -, hloads, hrest⟩
  · exact .inl (by rw [(LedgerFile.load_ends hstopped).1])
  obtain ⟨rfl, hkept⟩ := LedgerFile.load_ends hloads
  dsimp only at hrest
  split at hrest
  next => exact .inl (by rw [hrest.of_done.2.1])
  next => exact .inl (by rw [hrest.of_done.2.1])
  next l =>
    obtain ⟨bytes, hread, hdecode⟩ := hkept l rfl
    split at hrest
    next => exact .inl (by rw [hrest.of_done.2.1])
    next =>
      split at hrest
      next => exact .inl (by rw [hrest.of_done.2.1])
      next =>
        have hsaved : ∃ changes' result',
            (f.save (l.prune now)).Ends d₁ changes' result' d' := by
          rcases hrest.of_bind with ⟨hstopped, -⟩ |
            ⟨_, saved, d₂, _, -, hsaves, hover⟩
          · exact ⟨_, _, hstopped⟩
          · rcases saved with cause | done
              <;> obtain ⟨-, rfl, -⟩ := hover.of_done
            all_goals exact ⟨_, _, hsaves⟩
        obtain ⟨changes', result', hsaved⟩ := hsaved
        rcases LedgerFile.readFile_of_replace hsaved with hsame | hnew
        · exact .inl hsame
        · exact .inr ⟨bytes, l, hread, hdecode, hnew⟩

/-- What is loaded after a file was pruned, at the same time or earlier, is what
would have been loaded without that. -/
theorem loadLive_of_pruned {result : Option (Except ToolError String)}
    (hle : first ≤ later)
    (hends : (prune f dryRun first).Ends d changes result d') :
    ((f.loadLive later).run d').1 = ((f.loadLive later).run d).1 := by
  rcases prune_leaves hends with hsame | ⟨bytes, l, hread, hdecode, hpruned⟩
  · exact LedgerFile.loadLive_congr hsame
  · have hmax : max first later = later := if_pos hle
    rw [LedgerFile.loadLive_of_decode hread hdecode,
      LedgerFile.loadLive_of_decode hpruned
        (Ledger.decode_encode_prune hdecode first),
      Ledger.prune_prune, hmax]

/-! ## The tool as a whole -/

theorem asksOnly_firstThere (paths : List Path) :
    (Settings.firstThere paths).AsksOnly fun _ => False := by
  induction paths with
  | nil => trivial
  | cons path others ih =>
    intro answer
    cases answer with
    | ok e => trivial
    | error cause => exact ih

theorem asksOnly_load (path : Path) :
    (Settings.load path).AsksOnly fun _ => False := by
  intro answer
  dsimp only
  split
  next => trivial
  next =>
    split
    next => trivial
    next => split <;> trivial

theorem asksOnly_locate (named : Option String) :
    (Settings.locate named).AsksOnly fun _ => False := by
  cases named with
  | some text =>
    refine (asksOnly_firstThere _).bind fun found => ?_
    cases found <;> trivial
  | none =>
    refine (asksOnly_firstThere _).bind fun found => ?_
    cases found <;> trivial

theorem asksOnly_find (named : Option String) :
    (Settings.find named).AsksOnly fun _ => False := by
  refine (asksOnly_locate named).bind fun found => ?_
  cases found with
  | ok path => exact asksOnly_load path
  | error cause => trivial

/-- Which file and which settings are meant is found out without changing
anything. -/
theorem asksOnly_choose (a : Arguments) (named : Option String) :
    (choose a named).AsksOnly fun _ => False := by
  obtain ⟨settings, ledger, command⟩ := a
  unfold choose
  cases settings with
  | some path =>
    refine (asksOnly_load path).bind fun found => ?_
    cases found with
    | error cause => trivial
    | ok found => dsimp only; split <;> trivial
  | none =>
    cases ledger with
    | some path =>
      refine ((asksOnly_find named).map _).bind fun found => ?_
      cases found <;> trivial
    | none =>
      refine (asksOnly_find named).bind fun found => ?_
      cases found with
      | error cause => trivial
      | ok found => dsimp only; split <;> trivial

/-- What the tool leaves when it is to prune the file that its command line
means, if that means one. -/
theorem run_prune {arguments : List String} {named : Option String}
    {a : Arguments} (hrequest : Request.ofArguments arguments = .run a)
    (hcommand : a.command = .prune dryRun)
    (hchosen : ∀ path config, ((choose a named).run d).1 = .ok (path, config) →
      path = f.path) :
    ((run arguments named now).run d).2 = d ∨
      ((run arguments named now).run d).2 = ((prune f dryRun now).run d).2 := by
  have hrun : ((run arguments named now).run d).2 =
      ((runArguments a named now).run d).2 := by
    rw [run, hrequest]
    simp only [Program.run_bind]
    split <;> rfl
  have hstill := (asksOnly_choose a named).run_eq d
  rw [hrun, runArguments, Program.run_bind, hstill]
  cases hchoice : ((choose a named).run d).1 with
  | error cause => exact .inl rfl
  | ok choice =>
    obtain ⟨path, config⟩ := choice
    obtain rfl := hchosen path config hchoice
    right
    simp only [f.at?_path, hcommand]
    rfl

/-- However the tool ends when it prunes a file, what is loaded later on is what
would have been loaded without that. -/
structure Unnoticed (f : LedgerFile) (first later : UInt64) : Prop where
  ended : ∀ config dryRun d changes result d',
    (perform f config first (.prune dryRun)).Ends d changes result d' →
    ((f.loadLive later).run d').1 = ((f.loadLive later).run d).1
  /-- Run to its end with a command line that means the file, be it by
  settings. -/
  run : ∀ arguments named a dryRun d, Request.ofArguments arguments = .run a →
    a.command = .prune dryRun →
    (∀ path config, ((choose a named).run d).1 = .ok (path, config) →
      path = f.path) →
    ((f.loadLive later).run ((run arguments named first).run d).2).1 =
      ((f.loadLive later).run d).1

/-- Pruning at two times is pruning at the later one, on every ledger, and so
nobody notices later on that a file was pruned. -/
theorem prune_unnoticed (f : LedgerFile) (hle : first ≤ later) :
    (∀ (l : Ledger) (t u : UInt64), l.Prunes t u) ∧
    Unnoticed f first later where
  left := Ledger.prunes
  right := {
    ended := fun _ _ _ _ _ _ hends => loadLive_of_pruned hle hends
    run := by
      intro arguments named a dryRun d hrequest hcommand hchosen
      rcases run_prune hrequest hcommand hchosen with hsame | hpruned
      · rw [hsame]
      · obtain ⟨changes, hends⟩ := Program.ends_run (prune f dryRun first) d
        rw [hpruned]
        exact loadLive_of_pruned hle hends }

/-- A ledger with one record, whose life ends at 100, and a counter without a
record. -/
def lapsed : Ledger :=
  (Ledger.empty.upsert
    { (default : Record) with id := ⟨"m1"⟩, expiresAt := 100 }).setAttempts
    ⟨"m2"⟩ 3

def pruneStandard : List String :=
  ["--ledger", "/var/lib/herald/resend.ledger", "prune"]

theorem prune_unnoticed_lapsed :
    ((run pruneStandard none 150).run (LedgerFile.standardWith lapsed)).2 ≠
      LedgerFile.standardWith lapsed ∧
    ((LedgerFile.standard.loadLive 200).run
      ((run pruneStandard none 150).run (LedgerFile.standardWith lapsed)).2).1 =
      ((LedgerFile.standard.loadLive 200).run
        (LedgerFile.standardWith lapsed)).1 := by
  have hrequest : Request.ofArguments pruneStandard =
      .run ⟨none, some LedgerFile.standard.path, .prune false⟩ := by
    decide +kernel
  have hchoice :
      ((choose ⟨none, some LedgerFile.standard.path, .prune false⟩ none).run
        (LedgerFile.standardWith lapsed)).1 =
        .ok (LedgerFile.standard.path, Settings.standard.resend) := rfl
  have hle : (150 : UInt64) ≤ 200 := by decide
  have hunnoticed := prune_unnoticed .standard hle
  refine ⟨by decide +kernel, hunnoticed.2.run _ _ _ false _ hrequest rfl ?_⟩
  intro path config hchosen
  rw [hchoice] at hchosen
  cases hchosen
  rfl

end Cli

end Redelivery
