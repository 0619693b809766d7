import Redelivery.Proofs.Disk.Faults

/-!
# Programs beside what others have left behind

Whoever runs a program may be gone while an operation is under way.  The
operation does not go with him: the operating system brings it to its end some
time later, be it in the midst of another program.  A program that has nothing
of this kind around it ends as it does alone.
-/

namespace Redelivery.Program

variable {α : Type}

/-- One operation of a program: how the program goes on, and the tree that is
left. -/
inductive Goes : Program α → Disk → Program α → Disk → Prop
  | looked {path : Path} {next : Except DiskError Entry → Program α} {d : Disk}
      (answer : Except DiskError Entry)
      (hanswer : answer = d.look path ∨ ∃ cause, answer = .error cause) :
      Goes (.look path next) d (next answer) d
  | read {path : Path} {next : Except DiskError Bytes → Program α} {d : Disk}
      (answer : Except DiskError Bytes)
      (hanswer : answer = d.readFile path ∨ ∃ cause, answer = .error cause) :
      Goes (.read path next) d (next answer) d
  | taken {p : Program α} {c : Change}
      {next : Except DiskError Unit → Program α}
      {d d' : Disk} (hasks : p.asks? = some (c, next))
      (htake : c.take d = .ok d') :
      Goes p d (next (.ok ())) d'
  | refused {p : Program α} {c : Change}
      {next : Except DiskError Unit → Program α} {d : Disk}
      (hasks : p.asks? = some (c, next)) (cause : DiskError) :
      Goes p d (next (.error cause)) d
  | failed {p : Program α} {c part : Change}
      {next : Except DiskError Unit → Program α} {d d' : Disk}
      (hasks : p.asks? = some (c, next)) (hpart : c.Part part)
      (htake : part.take d = .ok d') (cause : DiskError) :
      Goes p d (next (.error cause)) d'

/-- One of the changes that were left behind comes to its end: it takes place as
a whole or in part, or not at all. -/
inductive Lands : Disk → List Change → Disk → List Change → Prop
  | taken {before after : List Change} {c : Change} {d d' : Disk}
      (htake : c.take d = .ok d') :
      Lands d (before ++ c :: after) d' (before ++ after)
  | failed {before after : List Change} {c part : Change} {d d' : Disk}
      (hpart : c.Part part) (htake : part.take d = .ok d') :
      Lands d (before ++ c :: after) d' (before ++ after)
  | refused {before after : List Change} {c : Change} {d : Disk} :
      Lands d (before ++ c :: after) d (before ++ after)

/-- A program goes on while changes that were left behind come to their ends. -/
inductive GoesAmid :
    Program α → Disk → List Change → Program α → Disk → List Change → Prop
  | stays (p : Program α) (d : Disk) (left : List Change) :
      GoesAmid p d left p d left
  | goes {p q r : Program α} {d d₁ d' : Disk} {left left' : List Change}
      (hgoes : p.Goes d q d₁) (hrest : GoesAmid q d₁ left r d' left') :
      GoesAmid p d left r d' left'
  | lands {p r : Program α} {d d₁ d' : Disk} {left left₁ left' : List Change}
      (hlands : Lands d left d₁ left₁)
      (hrest : GoesAmid p d₁ left₁ r d' left') :
      GoesAmid p d left r d' left'

/-- The change that a program waits for, if any. -/
def awaited (p : Program α) : List Change :=
  (p.asks?.map Prod.fst).toList

variable {p q : Program α} {d d₁ d' : Disk} {left left' changes : List Change}
  {result : Option α} {a : α}

theorem not_lands_nil : ¬Lands d [] d' left' := by
  intro hlands
  generalize hnone : ([] : List Change) = left at hlands
  cases hlands <;> simp at hnone

theorem Goes.ends (hgoes : p.Goes d q d₁)
    (hends : q.Ends d₁ changes result d') :
    ∃ before, p.Ends d (before ++ changes) result d' := by
  cases hgoes with
  | looked answer hanswer => exact ⟨[], .looked answer hanswer hends⟩
  | read answer hanswer => exact ⟨[], .read answer hanswer hends⟩
  | taken hasks htake => exact ⟨[_], .taken hasks htake hends⟩
  | refused hasks cause => exact ⟨[], .refused hasks cause hends⟩
  | failed hasks hpart htake cause =>
    exact ⟨[_], .failed hasks hpart htake cause hends⟩

/-- With nothing left behind, a program ends as it does alone. -/
theorem GoesAmid.ends (hgoes : p.GoesAmid d [] (.done a) d' left') :
    left' = [] ∧ ∃ changes, p.Ends d changes (some a) d' := by
  generalize hnone : ([] : List Change) = left at hgoes
  generalize hdone : Program.done a = ended at hgoes
  induction hgoes with
  | stays =>
    subst hdone
    exact ⟨rfl, [], .done a _⟩
  | goes hgoes _ ih =>
    obtain ⟨hleft, changes, hends⟩ := ih hnone hdone
    obtain ⟨before, hends⟩ := hgoes.ends hends
    exact ⟨hleft, _, hends⟩
  | lands hlands =>
    subst hnone
    exact absurd hlands not_lands_nil

theorem goesAmid_of_asks {c : Change} {next : Except DiskError Unit → Program α}
    (hasks : p.asks? = some (c, next))
    (hrun : p.run d =
      (next (outcome d (c.take d)).1).run (outcome d (c.take d)).2)
    (hnext : ∀ answer d,
      (next answer).GoesAmid d left (.done ((next answer).run d).1)
      ((next answer).run d).2 left) :
    p.GoesAmid d left (.done (p.run d).1) (p.run d).2 left := by
  rw [hrun]
  cases htake : c.take d with
  | ok d₁ => exact .goes (.taken hasks htake) (hnext (.ok ()) d₁)
  | error cause => exact .goes (.refused hasks cause) (hnext (.error cause) d)

/-- The ordinary run is one of them: what was left behind may come to its end
only after it. -/
theorem goesAmid_run (p : Program α) (d : Disk) (left : List Change) :
    p.GoesAmid d left (.done (p.run d).1) (p.run d).2 left := by
  induction p generalizing d with
  | done result => exact .stays _ d left
  | look path next ih => exact .goes (.looked _ (.inl rfl)) (ih _ d)
  | read path next ih => exact .goes (.read _ (.inl rfl)) (ih _ d)
  | write path bytes next ih => exact goesAmid_of_asks rfl rfl ih
  | move source goal next ih => exact goesAmid_of_asks rfl rfl ih
  | remove path next ih => exact goesAmid_of_asks rfl rfl ih
  | makeDirectory path next ih => exact goesAmid_of_asks rfl rfl ih

end Redelivery.Program
