import Redelivery.Disk.Program
import Redelivery.Proofs.Disk.Tree

/-!
# Programs that are stopped or refused

A program may be stopped before its end, and an operation may fail for causes
that the tree knows nothing of.  A write that fails or is stopped leaves a part
of its bytes in the file; every other operation takes place as a whole or not at
all.  The ordinary run is one of the ways in which a program ends.
-/

namespace Redelivery

/-- What an operation does to a tree. -/
inductive Change where
  | written (path : Path) (bytes : Bytes)
  | moved (source goal : Path)
  | removed (path : Path)
  | made (path : Path)
deriving DecidableEq

namespace Change

/-- Takes a change into a tree. -/
def take (d : Disk) : Change → Except DiskError Disk
  | written path bytes => d.writeFile path bytes
  | moved source goal => d.moveFile source goal
  | removed path => d.removeFile path
  | made path => d.makeDirectory path

/-- What can be left of a change that is broken off. -/
inductive Part : Change → Change → Prop
  | written (path : Path) {start bytes : Bytes} (hstart : start <+: bytes) :
      Part (.written path bytes) (.written path start)

end Change

namespace Program

variable {α β : Type}

/-- The change that a program asks for at once, and how it goes on by the
answer. -/
def asks? : Program α → Option (Change × (Except DiskError Unit → Program α))
  | write path bytes next => some (.written path bytes, next)
  | move source goal next => some (.moved source goal, next)
  | remove path next => some (.removed path, next)
  | makeDirectory path next => some (.made path, next)
  | _ => none

/-- The ways in which a program ends on a tree: the changes that took place, the
result, none if the program was stopped, and the tree that is left. -/
inductive Ends : Program α → Disk → List Change → Option α → Disk → Prop
  | stopped (p : Program α) (d : Disk) : Ends p d [] none d
  | done (result : α) (d : Disk) : Ends (.done result) d [] (some result) d
  | looked {path : Path} {next : Except DiskError Entry → Program α}
      {d d' : Disk}
      {changes : List Change} {result : Option α}
      (answer : Except DiskError Entry)
      (hanswer : answer = d.look path ∨ ∃ cause, answer = .error cause)
      (hrest : Ends (next answer) d changes result d') :
      Ends (.look path next) d changes result d'
  | read {path : Path} {next : Except DiskError Bytes → Program α} {d d' : Disk}
      {changes : List Change} {result : Option α}
      (answer : Except DiskError Bytes)
      (hanswer : answer = d.readFile path ∨ ∃ cause, answer = .error cause)
      (hrest : Ends (next answer) d changes result d') :
      Ends (.read path next) d changes result d'
  /-- The change takes place. -/
  | taken {p : Program α} {c : Change}
      {next : Except DiskError Unit → Program α}
      {d d₁ d' : Disk} {changes : List Change} {result : Option α}
      (hasks : p.asks? = some (c, next)) (htake : c.take d = .ok d₁)
      (hrest : Ends (next (.ok ())) d₁ changes result d') :
      Ends p d (c :: changes) result d'
  /-- The change is refused, be it by the tree or for another cause. -/
  | refused {p : Program α} {c : Change}
      {next : Except DiskError Unit → Program α} {d d' : Disk}
      {changes : List Change} {result : Option α}
      (hasks : p.asks? = some (c, next)) (cause : DiskError)
      (hrest : Ends (next (.error cause)) d changes result d') :
      Ends p d changes result d'
  /-- A part of the change takes place before the operation fails. -/
  | failed {p : Program α} {c part : Change}
      {next : Except DiskError Unit → Program α} {d d₁ d' : Disk}
      {changes : List Change} {result : Option α}
      (hasks : p.asks? = some (c, next)) (hpart : c.Part part)
      (htake : part.take d = .ok d₁) (cause : DiskError)
      (hrest : Ends (next (.error cause)) d₁ changes result d') :
      Ends p d (part :: changes) result d'
  /-- A part of the change takes place before the program is stopped. -/
  | cut {p : Program α} {c part : Change}
      {next : Except DiskError Unit → Program α} {d d₁ : Disk}
      (hasks : p.asks? = some (c, next)) (hpart : c.Part part)
      (htake : part.take d = .ok d₁) : Ends p d [part] none d₁

theorem ends_of_asks {p : Program α} {c : Change}
    {next : Except DiskError Unit → Program α} {d : Disk}
    (hasks : p.asks? = some (c, next))
    (hrun : p.run d =
      (next (outcome d (c.take d)).1).run (outcome d (c.take d)).2)
    (hnext : ∀ answer d, ∃ changes,
      (next answer).Ends d changes (some ((next answer).run d).1)
      ((next answer).run d).2) :
    ∃ changes, p.Ends d changes (some (p.run d).1) (p.run d).2 := by
  rw [hrun]
  cases htake : c.take d with
  | ok d₁ =>
    obtain ⟨changes, hends⟩ := hnext (.ok ()) d₁
    exact ⟨_, .taken hasks htake hends⟩
  | error cause =>
    obtain ⟨changes, hends⟩ := hnext (.error cause) d
    exact ⟨_, .refused hasks cause hends⟩

/-- A program with nothing left to do changes nothing. -/
theorem Ends.of_done {value : α} {d d' : Disk} {changes : List Change}
    {result : Option α}
    (hends : (Program.done value).Ends d changes result d') :
    changes = [] ∧ d' = d ∧ (result = none ∨ result = some value) := by
  cases hends with
  | stopped => exact ⟨rfl, rfl, .inl rfl⟩
  | done => exact ⟨rfl, rfl, .inr rfl⟩
  | taken hasks | refused hasks | failed hasks | cut hasks => cases hasks

/-- The ordinary run is one of the ways in which a program ends. -/
theorem ends_run (p : Program α) (d : Disk) :
    ∃ changes, p.Ends d changes (some (p.run d).1) (p.run d).2 := by
  induction p generalizing d with
  | done result => exact ⟨[], .done result d⟩
  | look path next ih =>
    obtain ⟨changes, hends⟩ := ih (d.look path) d
    exact ⟨changes, .looked _ (.inl rfl) hends⟩
  | read path next ih =>
    obtain ⟨changes, hends⟩ := ih (d.readFile path) d
    exact ⟨changes, .read _ (.inl rfl) hends⟩
  | write path bytes next ih => exact ends_of_asks rfl rfl ih
  | move source goal next ih => exact ends_of_asks rfl rfl ih
  | remove path next ih => exact ends_of_asks rfl rfl ih
  | makeDirectory path next ih => exact ends_of_asks rfl rfl ih

/-- The changes take place one after the other. -/
theorem Ends.foldlM_take {p : Program α} {d d' : Disk} {changes : List Change}
    {result : Option α} (hends : p.Ends d changes result d') :
    changes.foldlM Change.take d = .ok d' := by
  induction hends with
  | stopped | done => rfl
  | looked _ _ _ ih | read _ _ _ ih | refused _ _ _ ih => exact ih
  | taken _ htake _ ih | failed _ _ htake _ _ ih =>
    rw [List.foldlM_cons, htake]
    exact ih
  | cut _ _ htake =>
    rw [List.foldlM_cons, htake]
    rfl

/-! ## One program after another -/

/-- The way in which two programs end, one after the other: the first was
stopped, or the second went on from what the first had left. -/
def EndsWithin (first : Program α) (second : α → Program β) (d : Disk)
    (changes : List Change) (result : Option β) (d' : Disk) : Prop :=
  (first.Ends d changes none d' ∧ result = none) ∨
    ∃ before a d₁ later, changes = before ++ later ∧
      first.Ends d before (some a) d₁ ∧
      (second a).Ends d₁ later result d'

theorem asks?_bind {first : Program α} {second : α → Program β} {c : Change}
    {next : Except DiskError Unit → Program α}
    (hasks : first.asks? = some (c, next)) :
    (first.bind second).asks? =
      some (c, fun answer => (next answer).bind second) := by
  cases first <;> cases hasks <;> rfl

/-- What holds of the rest of the first program holds of the first program,
where every way in which the rest ends is a way in which the first program
ends. -/
theorem EndsWithin.of_rest {rest first : Program α} {second : α → Program β}
    {d d₁ d' : Disk} {changes : List Change} {result : Option β}
    (front : List Change)
    (hfront : ∀ {changes result d'}, rest.Ends d₁ changes result d' →
      first.Ends d (front ++ changes) result d')
    (hrest : rest.EndsWithin second d₁ changes result d') :
    first.EndsWithin second d (front ++ changes) result d' := by
  rcases hrest with ⟨hstopped, rfl⟩ |
    ⟨before, a, d₂, later, rfl, hbefore, hlater⟩
  · exact .inl ⟨hfront hstopped, rfl⟩
  · exact .inr ⟨front ++ before, a, d₂, later, by simp, hfront hbefore, hlater⟩

theorem endsWithin_of_asks {first : Program α} {second : α → Program β}
    {c : Change} {next : Except DiskError Unit → Program α} {d d' : Disk}
    {changes : List Change} {result : Option β}
    (hfirst : first.asks? = some (c, next))
    (hnext : ∀ answer {d changes},
      ((next answer).bind second).Ends d changes result d' →
      (next answer).EndsWithin second d changes result d')
    (hends : (first.bind second).Ends d changes result d') :
    first.EndsWithin second d changes result d' := by
  have hboth : (first.bind second).asks? = _ := asks?_bind hfirst
  generalize first.bind second = both at hends hboth
  cases hends with
  | stopped => exact .inl ⟨.stopped _ _, rfl⟩
  | done | looked | read => cases hboth
  | taken hasks htake hrest =>
    cases hboth.symm.trans hasks
    exact (hnext _ hrest).of_rest [c] fun hends => .taken hfirst htake hends
  | refused hasks cause hrest =>
    cases hboth.symm.trans hasks
    exact (hnext _ hrest).of_rest [] fun hends => .refused hfirst cause hends
  | @failed _ _ part _ _ _ _ _ _ hasks hpart htake cause hrest =>
    cases hboth.symm.trans hasks
    exact (hnext _ hrest).of_rest [part] fun hends =>
      .failed hfirst hpart htake cause hends
  | cut hasks hpart htake =>
    cases hboth.symm.trans hasks
    exact .inl ⟨.cut hfirst hpart htake, rfl⟩

theorem Ends.of_bind {first : Program α} {second : α → Program β} {d d' : Disk}
    {changes : List Change} {result : Option β}
    (hends : (first >>= second).Ends d changes result d') :
    first.EndsWithin second d changes result d' := by
  change (first.bind second).Ends d changes result d' at hends
  induction first generalizing d changes with
  | done a => exact .inr ⟨[], a, d, changes, rfl, .done a d, hends⟩
  | look path next ih =>
    cases hends with
    | stopped => exact .inl ⟨.stopped _ _, rfl⟩
    | looked answer hanswer hrest =>
      exact (ih answer hrest).of_rest [] fun hends =>
        .looked answer hanswer hends
    | taken hasks | refused hasks | failed hasks | cut hasks => cases hasks
  | read path next ih =>
    cases hends with
    | stopped => exact .inl ⟨.stopped _ _, rfl⟩
    | read answer hanswer hrest =>
      exact (ih answer hrest).of_rest [] fun hends => .read answer hanswer hends
    | taken hasks | refused hasks | failed hasks | cut hasks => cases hasks
  | write _ _ _ ih =>
    exact endsWithin_of_asks rfl (fun answer _ _ => ih answer) hends
  | move _ _ _ ih =>
    exact endsWithin_of_asks rfl (fun answer _ _ => ih answer) hends
  | remove _ _ ih =>
    exact endsWithin_of_asks rfl (fun answer _ _ => ih answer) hends
  | makeDirectory _ _ ih =>
    exact endsWithin_of_asks rfl (fun answer _ _ => ih answer) hends

/-! ## Programs that ask for some changes only -/

/-- However it is answered, the program asks for no other changes than the
allowed ones. -/
def AsksOnly (allowed : Change → Prop) : Program α → Prop
  | .done _ => True
  | .look _ next => ∀ answer, (next answer).AsksOnly allowed
  | .read _ next => ∀ answer, (next answer).AsksOnly allowed
  | .write path bytes next =>
    allowed (.written path bytes) ∧ ∀ answer, (next answer).AsksOnly allowed
  | .move source goal next =>
    allowed (.moved source goal) ∧ ∀ answer, (next answer).AsksOnly allowed
  | .remove path next =>
    allowed (.removed path) ∧ ∀ answer, (next answer).AsksOnly allowed
  | .makeDirectory path next =>
    allowed (.made path) ∧ ∀ answer, (next answer).AsksOnly allowed

variable {allowed : Change → Prop} {p : Program α}

theorem AsksOnly.of_asks (hp : p.AsksOnly allowed) {c : Change}
    {next : Except DiskError Unit → Program α}
    (hasks : p.asks? = some (c, next)) :
    allowed c ∧ ∀ answer, (next answer).AsksOnly allowed := by
  cases p <;> cases hasks <;> exact hp

theorem AsksOnly.bind {first : Program α} {second : α → Program β}
    (hfirst : first.AsksOnly allowed)
    (hsecond : ∀ result, (second result).AsksOnly allowed) :
    (first >>= second).AsksOnly allowed := by
  change (first.bind second).AsksOnly allowed
  induction first with
  | done result => exact hsecond result
  | look _ _ ih | read _ _ ih => exact fun answer => ih answer (hfirst answer)
  | write _ _ _ ih | move _ _ _ ih | remove _ _ ih | makeDirectory _ _ ih =>
    exact ⟨hfirst.1, fun answer => ih answer (hfirst.2 answer)⟩

theorem AsksOnly.map (hp : p.AsksOnly allowed) (f : α → β) :
    (f <$> p).AsksOnly allowed :=
  hp.bind fun _ => trivial

/-- What took place was allowed, if parts of what is allowed are. -/
theorem AsksOnly.allowed_of_ends (hp : p.AsksOnly allowed)
    (hparts : ∀ c part, allowed c → c.Part part → allowed part) {d d' : Disk}
    {changes : List Change} {result : Option α}
    (hends : p.Ends d changes result d') :
    ∀ c ∈ changes, allowed c := by
  induction hends with
  | stopped | done => simp
  | looked answer _ _ ih => exact ih (hp answer)
  | read answer _ _ ih => exact ih (hp answer)
  | taken hasks _ _ ih =>
    obtain ⟨hc, hnext⟩ := hp.of_asks hasks
    exact List.forall_mem_cons.2 ⟨hc, ih (hnext _)⟩
  | refused hasks _ _ ih => exact ih ((hp.of_asks hasks).2 _)
  | failed hasks hpart _ _ _ ih =>
    obtain ⟨hc, hnext⟩ := hp.of_asks hasks
    exact List.forall_mem_cons.2 ⟨hparts _ _ hc hpart, ih (hnext _)⟩
  | cut hasks hpart _ =>
    exact List.forall_mem_singleton.2 (hparts _ _ (hp.of_asks hasks).1 hpart)

/-- A program that asks for no changes makes none. -/
theorem AsksOnly.run_eq (hp : p.AsksOnly fun _ => False) (d : Disk) :
    (p.run d).2 = d := by
  obtain ⟨changes, hends⟩ := ends_run p d
  have hnone := hp.allowed_of_ends (fun _ _ hc _ => hc) hends
  obtain rfl := List.eq_nil_iff_forall_not_mem.2 hnone
  have htaken := hends.foldlM_take
  exact (Except.ok.inj htaken).symm

theorem asksOnly_exists? (path : Path) : (exists? path).AsksOnly allowed := by
  intro answer
  rcases answer with cause | e
  · cases cause <;> trivial
  · trivial

theorem asksOnly_isDirectory (path : Path) :
    (isDirectory path).AsksOnly allowed := by
  intro answer
  rcases answer with cause | e
  · trivial
  · cases e <;> trivial

theorem asksOnly_accept (path : Path) (cause : DiskError) :
    (makeDirectories.accept path cause).AsksOnly allowed := by
  refine (asksOnly_isDirectory path).bind fun there => ?_
  cases there <;> trivial

/-- Of the directories that are asked for, none but these are made. -/
theorem asksOnly_makeDirectories {paths : List Path}
    (hpaths : ∀ p ∈ paths, allowed (.made p)) :
    (makeDirectories paths).AsksOnly allowed := by
  induction paths with
  | nil => trivial
  | cons path outer ih =>
    have hpath := hpaths path List.mem_cons_self
    have houter := ih fun p hp => hpaths p (List.mem_cons_of_mem _ hp)
    have hsettle : (makeDirectories.settle path).AsksOnly allowed := by
      refine ⟨hpath, fun answer => ?_⟩
      cases answer with
      | ok made => trivial
      | error cause => exact asksOnly_accept path cause
    refine ⟨hpath, fun answer => ?_⟩
    dsimp only
    split
    · trivial
    · refine houter.bind fun result => ?_
      cases result with
      | ok made => exact hsettle
      | error cause => trivial
    · exact asksOnly_accept path _

end Program

end Redelivery
