import Mathlib.Data.List.Forall2
import Mathlib.Data.List.Induction
import Redelivery.Proofs.Resend.Pieces
import Redelivery.Proofs.Resend.Sweeps

/-!
# A sweep for every reconnection

A node may go down and up again while the task that watches it waits or sweeps.
The task sees the latest state only, so of several reconnections that it misses
the last one has to stand for all.  Every change of a node has a number.  The
task looks at greater and greater numbers, and sweeps once for each at which it
has found the node up.
-/

namespace Redelivery

namespace Routine

@[simp]
def watching? : Routine → Option NodeCursor
  | save next | write _ next | send _ next => next.watching?
  | sweep _ _ watching => watching
  | observe cursor | debounce cursor _ => some cursor
  | _ => none

/-- When the wait after a reconnection is over. -/
@[simp]
def sweepDue? : Routine → Option Nat
  | save next | write _ next | send _ next => next.sweepDue?
  | debounce _ due => some due
  | _ => none

@[simp]
theorem watching?_afterSweep (resent : Nat) (watching : Option NodeCursor) :
    (afterSweep resent watching).watching? = watching := by
  cases watching <;> rfl

@[simp]
theorem sweepDue?_afterSweep (resent : Nat) (watching : Option NodeCursor) :
    (afterSweep resent watching).sweepDue? = none := by
  cases watching <;> rfl

/-- A task that begins to watch a node has seen nothing of it. -/
theorem seen_of_isFirst {routine : Routine} {c : NodeCursor}
    (hfirst : routine.isFirst = true) (hwatching : routine.watching? = some c) :
    c.seen = none ∧ routine.sweepDue? = none := by
  induction routine with
  | save next ih | write _ next ih | send _ next ih => exact ih hfirst hwatching
  | sweep candidates resent watching =>
    cases hwatching
    cases hfirst
  | observe cursor =>
    cases hwatching
    exact ⟨by simpa [isFirst] using hfirst, rfl⟩
  | debounce => cases hfirst
  | _ => cases hwatching

end Routine

/-- Something that happens to a node: how many changes of the node there were by
then, and when it was. -/
structure Moment where
  version : Nat
  time : Nat
deriving DecidableEq

namespace Service

variable {s t start : Service} {e : Event} {task : Nat} {transport : Transport}
  {version : Nat}
  {events : List Event} {routine : Routine} {c : NodeCursor} {m : Moment}

/-! ## What happens to a node -/

def history? (s : Service) (transport : Transport) : Option NodeHistory :=
  s.nodes.nodes.get? transport

def comesUp? (s : Service) (transport : Transport) : Event → Option Moment
  | .setNode other .running =>
    if other = transport then
      (s.history? transport).bind fun h =>
        if h.state = .running then none else some ⟨h.version + 1, s.clock⟩
    else none
  | _ => none

/-- A task looks at a node for the first time, and finds it up as it was from
the first. -/
def findsUp? (s : Service) (task : Nat) (transport : Transport)
    (first : Option NodeHistory) :
    Event → Option Moment
  | .resume worker _ =>
    if worker = task ∧ s.tasks.get? task = some (.observe ⟨transport, none⟩) ∧
        s.history? transport = first then
      first.bind fun h =>
        if h.state = .running then some ⟨h.version, s.clock⟩ else none
    else none
  | _ => none

def sweepBegun? (s : Service) (task : Nat) (transport : Transport) :
    Event → Option Moment
  | .resume worker _ =>
    match s.tasks.get? task with
    | some (.debounce c due) =>
      if worker = task ∧ c.transport = transport ∧ due ≤ s.clock then
        some ⟨c.seen.getD 0, s.clock⟩
      else none
    | _ => none
  | _ => none

/-- A node comes up, or a task finds that it has been up from the first. -/
def ascent? (s : Service) (task : Nat) (transport : Transport)
    (first : Option NodeHistory) (e : Event) : Option Moment :=
  (s.comesUp? transport e).or (s.findsUp? task transport first e)

/-- How often a node comes up in a run; if it is up from the first, that counts
as well from when the task finds it so. -/
def ascents (start : Service) (task : Nat) (transport : Transport)
    (events : List Event) :
    List Moment :=
  start.collect
    (fun s e => s.ascent? task transport (start.history? transport) e) events

/-- The sweeps that a task begins in a run after it has found a node up. -/
def sweepsBegun (start : Service) (task : Nat) (transport : Transport)
    (events : List Event) :
    List Moment :=
  start.collect (fun s e => s.sweepBegun? task transport e) events

/-! ## Changes of a node -/

/-- A node has changed so many times at least. -/
def Changed (s : Service) (transport : Transport) (version : Nat) : Prop :=
  ∃ h, s.history? transport = some h ∧ version ≤ h.version

/-- A node is up since a change. -/
def Up (s : Service) (transport : Transport) (version : Nat) : Prop :=
  s.history? transport = some ⟨.running, version⟩

theorem Transition.nodes (htransition : Transition s e t) :
    t.nodes = s.nodes ∨
      ∃ other state, e = .setNode other state ∧
        t.nodes = s.nodes.set other state := by
  cases htransition with
  | setNode other state => exact .inr ⟨other, state, rfl, rfl⟩
  | start =>
    left
    unfold begun
    rw [foldl_launch_eq]
    simp
  | shutdown hrunning =>
    left
    rw [shutdown_eq hrunning]
  | resend id r claimed _ hclaim =>
    obtain ⟨_, _, _, _, rfl⟩ := claim_eq_some_iff.1 hclaim
    exact .inl rfl
  | fire generation sleeper r claimed _ _ _ _ hclaim =>
    obtain ⟨_, _, _, _, rfl⟩ := claim_eq_some_iff.1 hclaim
    exact .inl rfl
  | catchUp task saved id rest resent watching r claimed _ _ hclaim =>
    obtain ⟨_, _, _, _, rfl⟩ := claim_eq_some_iff.1 hclaim
    left
    simp
  | chore task saved old left u _ _ hchore => left; cases hchore <;> simp
  | retire | enroll | restate | hear | rescan | drop | leave => left; simp
  | _ => exact .inl rfl

/-- A node stays as it is, or changes once. -/
theorem history?_step (s : Service) (e : Event) (transport : Transport) :
    (s.step e).history? transport = s.history? transport ∨
      ∃ h state, s.history? transport = some h ∧ e = .setNode transport state ∧
        h.state ≠ state ∧
        (s.step e).history? transport = some ⟨state, h.version + 1⟩ := by
  rcases (transition_step s e).nodes with hsame | ⟨other, state, rfl, hset⟩
  · left
    rw [history?, hsame]
    rfl
  · simp only [history?, hset, NodeStates.set]
    split
    next => exact .inl rfl
    next h hhistory =>
      split
      next => exact .inl rfl
      next hdiffers =>
        by_cases hother : transport = other
        · subst hother
          exact .inr ⟨h, state, hhistory, rfl, hdiffers, by simp⟩
        · left
          simp [hother]

theorem Changed.step (hchanged : s.Changed transport version) (e : Event) :
    (s.step e).Changed transport version := by
  obtain ⟨h, hhistory, hle⟩ := hchanged
  rcases s.history?_step e transport with hsame |
    ⟨h', state, hhistory', _, _, hafter⟩
  · exact ⟨h, hsame.trans hhistory, hle⟩
  · rw [hhistory] at hhistory'
    cases hhistory'
    exact ⟨_, hafter, Nat.le_succ_of_le hle⟩

theorem comesUp?_eq_some_iff :
    s.comesUp? transport e = some m ↔
      e = .setNode transport .running ∧ m.time = s.clock ∧
        ∃ h, s.history? transport = some h ∧ h.state ≠ .running ∧
          m.version = h.version + 1 := by
  constructor
  · intro hcomes
    unfold comesUp? at hcomes
    split at hcomes
    next other =>
      split at hcomes
      next hsame =>
        subst hsame
        obtain ⟨h, hhistory, hcomes⟩ := Option.bind_eq_some_iff.1 hcomes
        split at hcomes
        next => cases hcomes
        next hdown =>
          cases hcomes
          exact ⟨rfl, rfl, h, hhistory, hdown, rfl⟩
      next => cases hcomes
    next => cases hcomes
  · obtain ⟨version, time⟩ := m
    rintro ⟨rfl, rfl, h, hhistory, hdown, rfl⟩
    simp [comesUp?, hhistory, hdown]

theorem up_of_comesUp? (hcomes : s.comesUp? transport e = some m) :
    (s.step e).Up transport m.version := by
  obtain ⟨rfl, _, h, hhistory, hdown, hversion⟩ := comesUp?_eq_some_iff.1 hcomes
  rw [history?] at hhistory
  simp [Up, history?, step, NodeStates.set, hhistory, hdown, hversion]

theorem findsUp?_eq_some_iff {first : Option NodeHistory} :
    s.findsUp? task transport first e = some m ↔
      (∃ saved, e = .resume task saved) ∧
        s.tasks.get? task = some (.observe ⟨transport, none⟩) ∧
        s.history? transport = first ∧ m.time = s.clock ∧
        s.Up transport m.version := by
  constructor
  · intro hfinds
    unfold findsUp? at hfinds
    split at hfinds
    next worker saved =>
      split at hfinds
      next hlooks =>
        obtain ⟨rfl, htask, hfirst⟩ := hlooks
        obtain ⟨h, hsome, hfinds⟩ := Option.bind_eq_some_iff.1 hfinds
        split at hfinds
        next hup =>
          cases hfinds
          have hhistory :
              s.history? transport = some ⟨.running, h.version⟩ := by
            rw [hfirst, hsome, ← hup]
          exact ⟨⟨saved, rfl⟩, htask, hfirst, rfl, hhistory⟩
        next => cases hfinds
      next => cases hfinds
    next => cases hfinds
  · obtain ⟨version, time⟩ := m
    rintro ⟨⟨saved, rfl⟩, htask, rfl, rfl, hup⟩
    rw [Up] at hup
    simp [findsUp?, htask, hup]

theorem sweepBegun?_eq_some_iff :
    s.sweepBegun? task transport e = some m ↔
      (∃ saved, e = .resume task saved) ∧ ∃ c due,
        s.tasks.get? task = some (.debounce c due) ∧ c.transport = transport ∧
          due ≤ s.clock ∧
        m = ⟨c.seen.getD 0, s.clock⟩ := by
  constructor
  · intro hbegun
    unfold sweepBegun? at hbegun
    split at hbegun
    next worker saved =>
      split at hbegun
      next c due htask =>
        split at hbegun
        next hready =>
          obtain ⟨rfl, htransport, hdue⟩ := hready
          cases hbegun
          exact ⟨⟨saved, rfl⟩, c, due, htask, htransport, hdue, rfl⟩
        next => cases hbegun
      next => cases hbegun
    next => cases hbegun
  · rintro ⟨⟨saved, rfl⟩, c, due, htask, rfl, hdue, rfl⟩
    simp [sweepBegun?, htask, hdue]

theorem ascent?_eq_some_iff {first : Option NodeHistory} :
    s.ascent? task transport first e = some m ↔
      s.comesUp? transport e = some m ∨
        s.findsUp? task transport first e = some m := by
  rw [ascent?, Option.or_eq_some_iff]
  constructor
  · rintro (hcomes | ⟨_, hfinds⟩)
    · exact .inl hcomes
    · exact .inr hfinds
  · rintro (hcomes | hfinds)
    · exact .inl hcomes
    · obtain ⟨⟨saved, rfl⟩, _⟩ := findsUp?_eq_some_iff.1 hfinds
      exact .inr ⟨rfl, hfinds⟩

theorem time_of_ascent? {first : Option NodeHistory}
    (hascent : s.ascent? task transport first e = some m) :
    m.time = s.clock := by
  rcases ascent?_eq_some_iff.1 hascent with hcomes | hfinds
  · exact (comesUp?_eq_some_iff.1 hcomes).2.1
  · exact (findsUp?_eq_some_iff.1 hfinds).2.2.2.1

/-- The change at which a node comes up is there after it. -/
theorem changed_of_ascent? {first : Option NodeHistory}
    (hascent : s.ascent? task transport first e = some m) :
    (s.step e).Changed transport m.version := by
  rcases ascent?_eq_some_iff.1 hascent with hcomes | hfinds
  · exact ⟨_, up_of_comesUp? hcomes, Nat.le_refl _⟩
  · have hup := (findsUp?_eq_some_iff.1 hfinds).2.2.2.2
    exact Changed.step ⟨_, hup, Nat.le_refl _⟩ e

theorem mem_ascents_concat_iff :
    m ∈ start.ascents task transport (events ++ [e]) ↔
      m ∈ start.ascents task transport events ∨
        (start.run events).ascent? task transport (start.history? transport) e =
          some m := by
  rw [ascents, collect_concat, List.mem_append, Option.mem_toList]
  rfl

theorem sweepsBegun_concat :
    start.sweepsBegun task transport (events ++ [e]) =
      start.sweepsBegun task transport events ++
        ((start.run events).sweepBegun? task transport e).toList := by
  rw [sweepsBegun, collect_concat]
  rfl

theorem mem_sweepsBegun_concat_iff :
    m ∈ start.sweepsBegun task transport (events ++ [e]) ↔
      m ∈ start.sweepsBegun task transport events ∨
        (start.run events).sweepBegun? task transport e = some m := by
  rw [sweepsBegun_concat, List.mem_append, Option.mem_toList]

/-- Where a node is up, it was before, or comes up. -/
theorem Up.before (hup : (s.step e).Up transport version) :
    s.Up transport version ∨
    s.comesUp? transport e = some ⟨version, s.clock⟩ := by
  rcases s.history?_step e transport with hsame |
    ⟨h, state, hhistory, rfl, hdiffers, hafter⟩
  · exact .inl (hsame.symm.trans hup)
  · right
    cases hafter.symm.trans hup
    exact comesUp?_eq_some_iff.2 ⟨rfl, rfl, h, hhistory, hdiffers, rfl⟩

/-! ## What a task does that watches a node -/

/-- No piece of work but a look at a node and the end of a wait changes what a
task watches and what it waits for. -/
theorem work_keeps (s : Service) (task : Nat) (saved : Bool)
    (hobserve : ∀ c, routine ≠ .observe c)
    (hdebounce : ∀ c due, routine ≠ .debounce c due) :
    (s.work task saved routine).2.watching? = routine.watching? ∧
      (s.work task saved routine).2.sweepDue? = routine.sweepDue? := by
  cases routine with
  | observe c => exact absurd rfl (hobserve c)
  | debounce c due => exact absurd rfl (hdebounce c due)
  | write copy next => cases saved <;> exact ⟨rfl, rfl⟩
  | sweep candidates resent watching =>
    cases candidates with
    | nil =>
      exact ⟨Routine.watching?_afterSweep resent watching,
        Routine.sweepDue?_afterSweep resent watching⟩
    | cons id rest =>
      change (s.trySweep id rest resent watching).2.watching? = watching ∧
        (s.trySweep id rest resent watching).2.sweepDue? = none
      unfold trySweep
      split <;> exact ⟨rfl, rfl⟩
  | follow cursor =>
    rw [work_follow]
    split
    next status seen _ =>
      simp only [onStatus]
      split
      next => exact ⟨rfl, rfl⟩
      next =>
        split
        next => exact ⟨rfl, rfl⟩
        next =>
          dsimp only
          split <;> exact ⟨rfl, rfl⟩
    next => exact ⟨rfl, rfl⟩
    next => split <;> exact ⟨rfl, rfl⟩
  | listen position =>
    rw [work_listen]
    split <;> exact ⟨rfl, rfl⟩
  | _ => exact ⟨rfl, rfl⟩

/-- What an event means for a task that watches a node after it. -/
inductive Watches (s : Service) (e : Event) (task : Nat) (routine : Routine)
    (c : NodeCursor) : Prop
  | begins (hnew : s.nextTask ≤ task) (hseen : c.seen = none)
      (hdue : routine.sweepDue? = none)
  | goesOn (old : Routine) (htask : s.tasks.get? task = some old)
      (hsame : old.watching? = some c)
      (hdue : routine.sweepDue? = old.sweepDue?)
      (hlooks : ∀ transport first, s.findsUp? task transport first e = none)
      (hsweeps : ∀ transport, s.sweepBegun? task transport e = none)
  | looks (saved : Bool) (before : NodeCursor) (h : NodeHistory)
      (he : e = .resume task saved)
      (htask : s.tasks.get? task = some (.observe before))
      (hsight : s.nodes.unseen? before = some h)
      (hafter : c = { before with seen := some h.version })
      (hdue : routine.sweepDue? = if h.state = .running then
        some (s.clock + sleepTime s.config.reconnectSweepDelay.toNat) else none)
  | sweeps (saved : Bool) (due : Nat) (he : e = .resume task saved)
      (htask : s.tasks.get? task = some (.debounce c due))
      (hready : due ≤ s.clock) (hdue : routine.sweepDue? = none)

theorem findsUp?_of_other {first : Option NodeHistory}
    (hother : ∀ saved, e ≠ .resume task saved) :
    s.findsUp? task transport first e = none := by
  rw [Option.eq_none_iff_forall_not_mem]
  intro m hfinds
  obtain ⟨⟨saved, he⟩, _⟩ := findsUp?_eq_some_iff.1 hfinds
  exact hother saved he

theorem sweepBegun?_of_other (hother : ∀ saved, e ≠ .resume task saved) :
    s.sweepBegun? task transport e = none := by
  rw [Option.eq_none_iff_forall_not_mem]
  intro m hbegun
  obtain ⟨⟨saved, he⟩, _⟩ := sweepBegun?_eq_some_iff.1 hbegun
  exact hother saved he

theorem findsUp?_of_not_observe {first : Option NodeHistory}
    (hobserve : ∀ c, s.tasks.get? task ≠ some (.observe c)) :
    s.findsUp? task transport first e = none := by
  rw [Option.eq_none_iff_forall_not_mem]
  intro m hfinds
  exact hobserve _ (findsUp?_eq_some_iff.1 hfinds).2.1

theorem sweepBegun?_of_not_debounce
    (hdebounce : ∀ c due, s.tasks.get? task ≠ some (.debounce c due)) :
    s.sweepBegun? task transport e = none := by
  rw [Option.eq_none_iff_forall_not_mem]
  intro m hbegun
  obtain ⟨_, c, due, htask, _⟩ := sweepBegun?_eq_some_iff.1 hbegun
  exact hdebounce c due htask

theorem isReady_of_sweepBegun?
    (hbegun : s.sweepBegun? task transport e = some m)
    (htask : s.tasks.get? task = some routine) : s.isReady routine = true := by
  obtain ⟨_, c, due, hdebounce, _, hdue, _⟩ := sweepBegun?_eq_some_iff.1 hbegun
  rw [htask] at hdebounce
  cases hdebounce
  simpa [isReady] using hdue

theorem isReady_of_findsUp? {first : Option NodeHistory}
    (hfinds : s.findsUp? task transport first e = some m)
    (htask : s.tasks.get? task = some routine) : s.isReady routine = true := by
  obtain ⟨_, hobserve, _, _, hup⟩ := findsUp?_eq_some_iff.1 hfinds
  rw [htask] at hobserve
  cases hobserve
  rw [Up, history?] at hup
  simp [isReady, NodeStates.unseen?, hup, Option.filter]

/-- What a task that has something to do makes of what it watches. -/
theorem watches_of_ready {old : Routine} {saved : Bool}
    (htask : s.tasks.get? task = some old) (hready : s.isReady old = true)
    (hleft : (s.work task saved old).2 = routine)
    (hwatching : routine.watching? = some c) :
    s.Watches (.resume task saved) task routine c := by
  by_cases hobserve : ∃ before, old = .observe before
  · obtain ⟨before, rfl⟩ := hobserve
    obtain ⟨h, hsight⟩ := Option.isSome_iff_exists.1 hready
    subst hleft
    have hpoll : s.nodes.poll before =
        (some h.state, { before with seen := some h.version }) := by
      simp [NodeStates.poll, hsight]
    rw [work_observe, hpoll] at hwatching ⊢
    obtain ⟨state, version⟩ := h
    cases state <;> cases hwatching
      <;> exact .looks saved before _ rfl htask hsight rfl rfl
  by_cases hdebounce : ∃ before due, old = .debounce before due
  · obtain ⟨before, due, rfl⟩ := hdebounce
    subst hleft
    cases hwatching
    exact .sweeps saved due rfl htask (by simpa [isReady] using hready) rfl
  have hkeeps :=
    s.work_keeps task saved (fun before hsame => hobserve ⟨before, hsame⟩)
    fun before due hsame => hdebounce ⟨before, due, hsame⟩
  rw [hleft] at hkeeps
  refine .goesOn old htask (hkeeps.1.symm.trans hwatching) hkeeps.2 ?_ ?_
  · refine fun _ _ => findsUp?_of_not_observe fun before hsame =>
      hobserve ⟨before, ?_⟩
    exact Option.some.inj (htask.symm.trans hsame)
  · refine fun _ => sweepBegun?_of_not_debounce fun before due hsame =>
      hdebounce ⟨before, due, ?_⟩
    exact Option.some.inj (htask.symm.trans hsame)

/-- Every task that watches a node has begun to, goes on as before, has looked,
or begins to sweep. -/
theorem Separate.watches (hs : s.Separate)
    (hafter : (s.step e).tasks.get? task = some routine)
    (hwatching : routine.watching? = some c) : s.Watches e task routine c := by
  by_cases hnew : s.nextTask ≤ task
  · obtain ⟨hseen, hdue⟩ :=
      Routine.seen_of_isFirst (hs.isFirst_of_new hnew hafter) hwatching
    exact .begins hnew hseen hdue
  have hbegun := Nat.lt_of_not_le hnew
  by_cases hturn : ∃ saved, e = .resume task saved
  · obtain ⟨saved, rfl⟩ := hturn
    cases htask : s.tasks.get? task with
    | none =>
      have hidle : s.step (.resume task saved) = s := by
        simp [step, resume, htask]
      rw [hidle, htask] at hafter
      cases hafter
    | some old =>
      cases hready : s.isReady old with
      | false =>
        rw [step_of_idle htask hready, htask] at hafter
        cases hafter
        refine .goesOn routine htask hwatching rfl ?_ ?_
        · intro transport first
          rw [Option.eq_none_iff_forall_not_mem]
          intro m hfinds
          rw [isReady_of_findsUp? hfinds htask] at hready
          cases hready
        · intro transport
          rw [Option.eq_none_iff_forall_not_mem]
          intro m hbegins
          rw [isReady_of_sweepBegun? hbegins htask] at hready
          cases hready
      | true =>
        rw [step_of_ready htask hready, tasks_setRoutine, if_pos rfl] at hafter
        split at hafter
        next => cases hafter
        next =>
          have hleft := Option.some.inj hafter
          exact watches_of_ready htask hready hleft hwatching
  · have hother : ∀ saved, e ≠ .resume task saved :=
      fun saved he => hturn ⟨saved, he⟩
    rcases tasks_step_of_other hbegun hother with hsame | hgone
    · exact .goesOn routine (hsame.symm.trans hafter) hwatching rfl
        (fun _ _ => findsUp?_of_other hother) fun _ =>
          sweepBegun?_of_other hother
    · rw [hgone] at hafter
      cases hafter

theorem clock_le_step (s : Service) (e : Event) :
    s.clock ≤ (s.step e).clock := by
  have htransition := transition_step s e
  cases hwithin : e.isWithin with
  | true => exact Nat.le_of_eq (htransition.clock hwithin).symm
  | false =>
    generalize s.step e = t at htransition
    cases htransition with
    | pass => exact Nat.le_add_right _ _
    | start => exact Nat.le_of_eq (by simp)
    | shutdown hrunning => exact Nat.le_of_eq (by rw [shutdown_eq hrunning])
    | _ => first | exact Nat.le_refl _ | cases hwithin

/-! ## Sweeps and reconnections in a run -/

/-- A task has not begun to watch a node, or has not looked at it yet. -/
def Unlooked (s : Service) (task : Nat) (transport : Transport) : Prop :=
  s.nextTask ≤ task ∨ ∃ routine c, s.tasks.get? task = some routine ∧
    routine.watching? = some c ∧ c.transport = transport ∧ c.seen = none

/-- What is known of a task that has looked at a node when there had been
`version` changes: it waits to sweep for that one, or has swept for it if the
node is up since then. -/
structure Looked (start : Service) (task : Nat) (transport : Transport)
    (events : List Event) (due : Option Nat) (version : Nat) : Prop where
  changed : (start.run events).Changed transport version
  later : ∀ h, start.history? transport = some h → h.version ≤ version
  sweeps : ∀ b ∈ start.sweepsBegun task transport events, b.version ≤ version
  waiting : ∀ time, due = some time →
    (∀ b ∈ start.sweepsBegun task transport events, b.version < version) ∧
      ∃ a ∈ start.ascents task transport events, a.version = version ∧
        a.time + sleepTime start.config.reconnectSweepDelay.toNat ≤ time
  swept : due = none → (start.run events).Up transport version →
    ∃ b ∈ start.sweepsBegun task transport events, b.version = version

/-- Every sweep of a task is one for a reconnection, and no two are for the
same. -/
structure Accounts (start : Service) (task : Nat) (transport : Transport)
    (events : List Event) :
    Prop where
  changed : ∀ a ∈ start.ascents task transport events,
    (start.run events).Changed transport a.version
  past : ∀ a ∈ start.ascents task transport events,
    a.time ≤ (start.run events).clock
  ordered : (start.ascents task transport events).Pairwise fun a b =>
    a.version < b.version
  risen : ∀ version, (start.run events).Up transport version →
    start.Up transport version ∨
    ∃ a ∈ start.ascents task transport events, a.version = version
  since : ∀ h, start.history? transport = some h →
    (start.run events).Changed transport h.version
  owned : ∀ b ∈ start.sweepsBegun task transport events,
    ∃ a ∈ start.ascents task transport events, a.version = b.version ∧
      a.time + sleepTime start.config.reconnectSweepDelay.toNat ≤ b.time
  sweepsOrdered : (start.sweepsBegun task transport events).Pairwise fun a b =>
    a.version < b.version
  unlooked : (start.run events).Unlooked task transport →
    start.sweepsBegun task transport events = [] ∧
      (∀ a ∈ start.ascents task transport events,
        ¬ start.Up transport a.version) ∧
      ∀ routine, (start.run events).tasks.get? task = some routine →
        routine.sweepDue? = none
  looked : ∀ routine c version,
    (start.run events).tasks.get? task = some routine →
    routine.watching? = some c → c.transport = transport →
    c.seen = some version →
      start.Looked task transport events routine.sweepDue? version

theorem accounts_nil (hstart : start.Fresh) :
    start.Accounts task transport [] where
  changed := by simp [ascents, collect]
  past := by simp [ascents, collect]
  ordered := by simp [ascents, collect]
  risen := fun _ hup => .inl hup
  since := fun h hhistory => ⟨h, hhistory, Nat.le_refl _⟩
  owned := by simp [sweepsBegun, collect]
  sweepsOrdered := by simp [sweepsBegun, collect]
  unlooked := by
    intro _
    refine ⟨rfl, by simp [ascents, collect], fun routine htask => ?_⟩
    simp [hstart.tasks] at htask
  looked := by
    intro routine c version htask
    simp [hstart.tasks] at htask

/-- Where a task waits after a reconnection, its sweep is for that one. -/
theorem Accounts.due (hs : start.Accounts task transport events) {due : Nat}
    (htask : (start.run events).tasks.get? task = some (.debounce c due))
    (htransport : c.transport = transport) :
    ∃ version, c.seen = some version ∧
      start.Looked task transport events (some due) version := by
  cases hseen : c.seen with
  | none =>
    have hunlooked : (start.run events).Unlooked task transport :=
      .inr ⟨_, c, htask, rfl, htransport, hseen⟩
    have hnone := (hs.unlooked hunlooked).2.2 _ htask
    cases hnone
  | some version =>
    exact ⟨version, rfl, hs.looked _ c version htask rfl htransport hseen⟩

/-- An ascent comes after all those before it. -/
theorem Accounts.ascent_later (hs : start.Accounts task transport events)
    (hascent : (start.run events).ascent? task transport
      (start.history? transport) e = some m) :
    ∀ a ∈ start.ascents task transport events, a.version < m.version := by
  intro a hmem
  obtain ⟨h, hhistory, hle⟩ := hs.changed a hmem
  rcases ascent?_eq_some_iff.1 hascent with hcomes | hfinds
  · obtain ⟨_, _, h', hhistory', _, hversion⟩ := comesUp?_eq_some_iff.1 hcomes
    cases hhistory.symm.trans hhistory'
    omega
  · obtain ⟨_, htask, hfirst, _, hup⟩ := findsUp?_eq_some_iff.1 hfinds
    have hunlooked : (start.run events).Unlooked task transport :=
      .inr ⟨_, ⟨transport, none⟩, htask, rfl, rfl, rfl⟩
    have hother := (hs.unlooked hunlooked).2.1 a hmem
    have hstart : start.Up transport m.version := hfirst.symm.trans hup
    cases hhistory.symm.trans hup
    refine Nat.lt_of_le_of_ne hle ?_
    intro hsame
    rw [hsame] at hother
    exact hother hstart

theorem Accounts.sweep_later (hs : start.Accounts task transport events)
    (hbegun : (start.run events).sweepBegun? task transport e = some m) :
    (∀ b ∈ start.sweepsBegun task transport events, b.version < m.version) ∧
      ∃ a ∈ start.ascents task transport events, a.version = m.version ∧
        a.time + sleepTime start.config.reconnectSweepDelay.toNat ≤ m.time := by
  obtain ⟨_, c, due, htask, htransport, hready, rfl⟩ :=
    sweepBegun?_eq_some_iff.1 hbegun
  obtain ⟨version, hseen, hlooked⟩ := hs.due htask htransport
  obtain ⟨hearlier, a, hmem, hversion, hdue⟩ := hlooked.waiting due rfl
  rw [hseen]
  exact ⟨hearlier, a, hmem, hversion, Nat.le_trans hdue hready⟩

/-- A task that has not looked at a node yet had not before. -/
theorem Accounts.unlooked_before (hs : start.Accounts task transport events)
    (hseparate : (start.run events).Separate)
    (hafter : ((start.run events).step e).Unlooked task transport) :
    (start.run events).Unlooked task transport ∧
      (start.run events).sweepBegun? task transport e = none ∧
      (start.run events).findsUp? task transport (start.history? transport) e =
        none ∧
      ∀ routine, ((start.run events).step e).tasks.get? task = some routine →
        routine.sweepDue? = none := by
  have hnew (hlarge : (start.run events).nextTask ≤ task) :
      (start.run events).sweepBegun? task transport e = none ∧
        (start.run events).findsUp? task transport
          (start.history? transport) e = none := by
    have hnone := hseparate.unused task hlarge
    exact ⟨sweepBegun?_of_not_debounce (by simp [hnone]),
      findsUp?_of_not_observe (by simp [hnone])⟩
  rcases hafter with hlarge | ⟨routine, c, htask, hwatching, htransport, hseen⟩
  · have hlarge' := Nat.le_trans (nextTask_le_step _ e) hlarge
    refine ⟨.inl hlarge', (hnew hlarge').1, (hnew hlarge').2,
      fun routine htask => ?_⟩
    rw [(hseparate.transition (transition_step _ e)).unused task hlarge]
      at htask
    cases htask
  · have hdue (routine' : Routine)
        (htask' : ((start.run events).step e).tasks.get? task = some routine')
        (hnone : routine.sweepDue? = none) : routine'.sweepDue? = none := by
      cases htask.symm.trans htask'
      exact hnone
    cases hseparate.watches htask hwatching with
    | begins hlarge _ hnone =>
      exact ⟨.inl hlarge, (hnew hlarge).1, (hnew hlarge).2,
        fun r hr => hdue r hr hnone⟩
    | goesOn old hold hsame hsamedue hlooks hsweeps =>
      have hbefore : (start.run events).Unlooked task transport :=
        .inr ⟨old, c, hold, hsame, htransport, hseen⟩
      have hnone := hsamedue.trans ((hs.unlooked hbefore).2.2 old hold)
      exact ⟨hbefore, hsweeps _, hlooks _ _, fun r hr => hdue r hr hnone⟩
    | looks saved before h _ _ _ hafter =>
      rw [hafter] at hseen
      cases hseen
    | sweeps saved due _ hold =>
      obtain ⟨version, hsome, _⟩ := hs.due hold htransport
      rw [hseen] at hsome
      cases hsome

/-- A node that is up since a change that there was before has been up
before. -/
theorem Changed.up_before (hchanged : s.Changed transport version)
    (hup : (s.step e).Up transport version) : s.Up transport version := by
  rcases hup.before with hbefore | hcomes
  · exact hbefore
  · obtain ⟨_, _, h, hhistory, _, hversion⟩ := comesUp?_eq_some_iff.1 hcomes
    obtain ⟨h', hhistory', hle⟩ := hchanged
    cases hhistory.symm.trans hhistory'
    dsimp only at hversion
    omega

/-- A task that goes on as before knows what it knew. -/
theorem Looked.step {due : Option Nat}
    (h : start.Looked task transport events due version)
    (hsweeps : (start.run events).sweepBegun? task transport e = none) :
    start.Looked task transport (events ++ [e]) due version := by
  have hbegun : start.sweepsBegun task transport (events ++ [e]) =
      start.sweepsBegun task transport events := by
    rw [sweepsBegun_concat, hsweeps]
    exact List.append_nil _
  refine ⟨?_, h.later, ?_, ?_, ?_⟩
  · rw [run_concat]
    exact h.changed.step e
  · rw [hbegun]
    exact h.sweeps
  · intro time hdue
    rw [hbegun]
    obtain ⟨hearlier, a, hmem, hfor⟩ := h.waiting time hdue
    exact ⟨hearlier, a, mem_ascents_concat_iff.2 (.inl hmem), hfor⟩
  · intro hnone hup
    rw [run_concat] at hup
    rw [hbegun]
    exact h.swept hnone (h.changed.up_before hup)

/-- A task that begins to sweep has swept for what it waited for. -/
theorem Looked.sweep {due : Nat}
    (h : start.Looked task transport events (some due) version)
    (hsweeps : (start.run events).sweepBegun? task transport e =
      some ⟨version, (start.run events).clock⟩) :
    start.Looked task transport (events ++ [e]) none version := by
  refine ⟨?_, h.later, ?_, nofun, ?_⟩
  · rw [run_concat]
    exact h.changed.step e
  · intro b hmem
    rcases mem_sweepsBegun_concat_iff.1 hmem with hbefore | hnow
    · exact h.sweeps b hbefore
    · rw [hsweeps] at hnow
      cases hnow
      exact Nat.le_refl _
  · intro _ _
    exact ⟨_, mem_sweepsBegun_concat_iff.2 (.inr hsweeps), rfl⟩

/-- What a task that looks at a node has known before: nothing, or an earlier
change. -/
theorem Accounts.sighted (hs : start.Accounts task transport events)
    {h : NodeHistory}
    (htask : (start.run events).tasks.get? task = some (.observe c))
    (htransport : c.transport = transport)
    (hsight : (start.run events).nodes.unseen? c = some h) :
    (start.run events).history? transport = some h ∧
      (∀ b ∈ start.sweepsBegun task transport events, b.version < h.version) ∧
      (start.Up transport h.version → c.seen = none) := by
  obtain ⟨hhistory, hunseen⟩ := Option.filter_eq_some_iff.1 hsight
  rw [htransport] at hhistory
  have hunseen : c.seen ≠ some h.version := bne_iff_ne.1 hunseen
  refine ⟨hhistory, ?_⟩
  cases hseen : c.seen with
  | none =>
    have hunlooked : (start.run events).Unlooked task transport :=
      .inr ⟨_, c, htask, rfl, htransport, hseen⟩
    rw [(hs.unlooked hunlooked).1]
    exact ⟨by simp, fun _ => rfl⟩
  | some version =>
    have hlooked := hs.looked _ c version htask rfl htransport hseen
    have hlater : version < h.version := by
      obtain ⟨h', hhistory', hle⟩ := hlooked.changed
      cases hhistory.symm.trans hhistory'
      refine Nat.lt_of_le_of_ne hle ?_
      rintro rfl
      exact hunseen hseen
    refine ⟨fun b hmem => Nat.lt_of_le_of_lt (hlooked.sweeps b hmem) hlater,
      fun hup => ?_⟩
    exact absurd (hlooked.later _ hup) (Nat.not_le_of_lt hlater)

/-- A task that finds a node up waits for the reconnection that led to it. -/
theorem Accounts.look (hs : start.Accounts task transport events) {saved : Bool}
    {h : NodeHistory}
    (htask : (start.run events).tasks.get? task = some (.observe c))
    (htransport : c.transport = transport)
    (hsight : (start.run events).nodes.unseen? c = some h) :
    start.Looked task transport (events ++ [.resume task saved])
      (if h.state = .running then some ((start.run events).clock +
        sleepTime (start.run events).config.reconnectSweepDelay.toNat)
          else none) h.version := by
  obtain ⟨hhistory, hearlier, hfirst⟩ := hs.sighted htask htransport hsight
  have hsame : ((start.run events).step (.resume task saved)).history?
      transport = some h := by
    rcases history?_step (start.run events) (.resume task saved) transport with
      hsame | ⟨_, _, _, he, _⟩
    · rw [hsame, hhistory]
    · cases he
  have hbegun :
      start.sweepsBegun task transport (events ++ [.resume task saved]) =
      start.sweepsBegun task transport events := by
    rw [sweepsBegun_concat, sweepBegun?_of_not_debounce (by simp [htask])]
    exact List.append_nil _
  refine ⟨?_, ?_, ?_, ?_, ?_⟩
  · rw [run_concat]
    exact ⟨h, hsame, Nat.le_refl _⟩
  · intro h' hstart
    obtain ⟨h'', hhistory', hle⟩ := hs.since h' hstart
    cases hhistory.symm.trans hhistory'
    exact hle
  · rw [hbegun]
    exact fun b hmem => Nat.le_of_lt (hearlier b hmem)
  · intro time hdue
    rw [hbegun]
    refine ⟨hearlier, ?_⟩
    split at hdue
    next hrunning =>
      cases hdue
      rw [config_run]
      have hup : (start.run events).Up transport h.version := by
        rw [Up, hhistory, ← hrunning]
      rcases hs.risen h.version hup with hstart | ⟨a, hmem, hversion⟩
      · have hfinds : (start.run events).findsUp? task transport
            (start.history? transport)
            (.resume task saved) =
              some ⟨h.version, (start.run events).clock⟩ := by
          refine findsUp?_eq_some_iff.2
            ⟨⟨saved, rfl⟩, ?_, hup.trans hstart.symm, rfl, hup⟩
          rw [htask, ← htransport, ← hfirst hstart]
        refine ⟨_, mem_ascents_concat_iff.2
            (.inr (ascent?_eq_some_iff.2 (.inr hfinds))), rfl, ?_⟩
        exact Nat.le_refl _
      · exact ⟨a, mem_ascents_concat_iff.2 (.inl hmem), hversion,
          Nat.add_le_add_right (hs.past a hmem) _⟩
    next => cases hdue
  · intro hnone hup
    rw [run_concat, Up, hsame] at hup
    have hrunning : h.state = .running := by rw [Option.some.inj hup]
    rw [if_pos hrunning] at hnone
    cases hnone

/-- A task that has not looked at a node yet has not swept, and the node has not
been found up. -/
theorem Accounts.unlooked_step (hs : start.Accounts task transport events)
    (hseparate : (start.run events).Separate)
    (hafter : ((start.run events).step e).Unlooked task transport) :
    start.sweepsBegun task transport (events ++ [e]) = [] ∧
      (∀ a ∈ start.ascents task transport (events ++ [e]),
        ¬ start.Up transport a.version) ∧
      ∀ routine, ((start.run events).step e).tasks.get? task = some routine →
        routine.sweepDue? = none := by
  obtain ⟨hbefore, hsweeps, hfinds, hdue⟩ := hs.unlooked_before hseparate hafter
  obtain ⟨hnone, hothers, _⟩ := hs.unlooked hbefore
  refine ⟨?_, ?_, hdue⟩
  · rw [sweepsBegun_concat, hnone, hsweeps]
    rfl
  · intro a hmem hstart
    rcases mem_ascents_concat_iff.1 hmem with hearlier | hascent
    · exact hothers a hearlier hstart
    · rcases ascent?_eq_some_iff.1 hascent with hcomes | hfound
      · obtain ⟨_, _, h, hhistory, _, hversion⟩ := comesUp?_eq_some_iff.1 hcomes
        obtain ⟨h', hhistory', hle⟩ := hs.since _ hstart
        cases hhistory.symm.trans hhistory'
        dsimp only at hle
        omega
      · rw [hfinds] at hfound
        cases hfound

theorem Accounts.looked_step (hs : start.Accounts task transport events)
    (hseparate : (start.run events).Separate)
    (htask : ((start.run events).step e).tasks.get? task = some routine)
    (hwatching : routine.watching? = some c)
    (htransport : c.transport = transport) (hseen : c.seen = some version) :
    start.Looked task transport (events ++ [e]) routine.sweepDue? version := by
  cases hseparate.watches htask hwatching with
  | begins _ hnone =>
    rw [hnone] at hseen
    cases hseen
  | goesOn old hold hsame hdue _ hsweeps =>
    rw [hdue]
    exact (hs.looked old c version hold hsame htransport hseen).step
      (hsweeps transport)
  | looks saved before h he hold hsight hafter hdue =>
    subst hafter he
    cases hseen
    rw [hdue]
    exact hs.look hold htransport hsight
  | sweeps saved due he hold hready hdue =>
    subst he
    obtain ⟨version', hseen', hlooked⟩ := hs.due hold htransport
    cases hseen.symm.trans hseen'
    rw [hdue]
    refine hlooked.sweep (sweepBegun?_eq_some_iff.2
      ⟨⟨saved, rfl⟩, c, due, hold, htransport, hready, ?_⟩)
    rw [hseen]
    rfl

theorem pairwise_toList {R : Moment → Moment → Prop} (m : Option Moment) :
    m.toList.Pairwise R := by
  cases m <;> simp

theorem Accounts.step (hs : start.Accounts task transport events)
    (hseparate : (start.run events).Separate) (e : Event) :
    start.Accounts task transport (events ++ [e]) where
  changed := by
    intro a hmem
    rw [run_concat]
    rcases mem_ascents_concat_iff.1 hmem with hbefore | hascent
    · exact (hs.changed a hbefore).step e
    · exact changed_of_ascent? hascent
  past := by
    intro a hmem
    rw [run_concat]
    refine Nat.le_trans ?_ (clock_le_step _ e)
    rcases mem_ascents_concat_iff.1 hmem with hbefore | hascent
    · exact hs.past a hbefore
    · exact Nat.le_of_eq (time_of_ascent? hascent)
  ordered := by
    rw [ascents, collect_concat, List.pairwise_append]
    refine ⟨hs.ordered, pairwise_toList _, ?_⟩
    · intro a hmem m hascent
      exact hs.ascent_later (Option.mem_toList.1 hascent) a hmem
  risen := by
    intro version hup
    rw [run_concat] at hup
    rcases hup.before with hbefore | hcomes
    · rcases hs.risen version hbefore with hstart | ⟨a, hmem, hversion⟩
      · exact .inl hstart
      · exact .inr ⟨a, mem_ascents_concat_iff.2 (.inl hmem), hversion⟩
    · exact .inr
        ⟨_, mem_ascents_concat_iff.2
          (.inr (ascent?_eq_some_iff.2 (.inl hcomes))), rfl⟩
  since := by
    intro h hstart
    rw [run_concat]
    exact (hs.since h hstart).step e
  owned := by
    intro b hmem
    rcases mem_sweepsBegun_concat_iff.1 hmem with hbefore | hbegun
    · obtain ⟨a, hmem, hfor⟩ := hs.owned b hbefore
      exact ⟨a, mem_ascents_concat_iff.2 (.inl hmem), hfor⟩
    · obtain ⟨a, hmem, hfor⟩ := (hs.sweep_later hbegun).2
      exact ⟨a, mem_ascents_concat_iff.2 (.inl hmem), hfor⟩
  sweepsOrdered := by
    rw [sweepsBegun_concat, List.pairwise_append]
    refine ⟨hs.sweepsOrdered, pairwise_toList _, ?_⟩
    · intro b hmem m hbegun
      exact (hs.sweep_later (Option.mem_toList.1 hbegun)).1 b hmem
  unlooked := by
    intro hafter
    rw [run_concat] at hafter ⊢
    exact hs.unlooked_step hseparate hafter
  looked := by
    intro routine c version htask hwatching htransport hseen
    rw [run_concat] at htask
    exact hs.looked_step hseparate htask hwatching htransport hseen

theorem accounts_run (hstart : start.Fresh) (events : List Event) :
    start.Accounts task transport events := by
  induction events using List.reverseRecOn with
  | nil => exact accounts_nil hstart
  | append_singleton events e ih => exact ih.step (separate_run hstart events) e

/-! ## Each sweep has a reconnection of its own -/

/-- Moments that each belong to an earlier one with the same number, all of them
in order, belong to different ones. -/
theorem sublistForall₂_of_ordered {wait : Nat} {ascents sweeps : List Moment}
    (hascents : ascents.Pairwise fun a b => a.version < b.version)
    (hsweeps : sweeps.Pairwise fun a b => a.version < b.version)
    (howned : ∀ b ∈ sweeps, ∃ a ∈ ascents, a.version = b.version ∧
      a.time + wait ≤ b.time) :
    List.SublistForall₂ (fun b a => a.time + wait ≤ b.time) sweeps ascents := by
  induction ascents generalizing sweeps with
  | nil =>
    cases sweeps with
    | nil => exact .nil
    | cons b rest =>
      obtain ⟨a, hmem, _⟩ := howned b List.mem_cons_self
      cases hmem
  | cons a ascents ih =>
    obtain ⟨hlater, hordered⟩ := List.pairwise_cons.1 hascents
    have hothers (b : Moment) (hmem : b ∈ sweeps)
        (hgreater : a.version < b.version) :
        ∃ a' ∈ ascents, a'.version = b.version ∧ a'.time + wait ≤ b.time := by
      obtain ⟨a', hmem', hversion, htime⟩ := howned b hmem
      rcases List.mem_cons.1 hmem' with rfl | hmem'
      · omega
      · exact ⟨a', hmem', hversion, htime⟩
    cases sweeps with
    | nil => exact .nil
    | cons b rest =>
      obtain ⟨hgreater, hrest⟩ := List.pairwise_cons.1 hsweeps
      obtain ⟨a', hmem', hversion, htime⟩ := howned b List.mem_cons_self
      rcases List.mem_cons.1 hmem' with rfl | hmem'
      · refine .cons htime (ih hordered hrest fun b' hb' => ?_)
        have hlarger := hgreater b' hb'
        exact hothers b' (List.mem_cons_of_mem _ hb') (by omega)
      · refine .cons_right (ih hordered hsweeps fun b' hb' => hothers b' hb' ?_)
        have hfirst := hlater a' hmem'
        rcases List.mem_cons.1 hb' with rfl | hb'
        · omega
        · have hlarger := hgreater b' hb'
          omega

/-- The last moment of some in order has the greatest number. -/
theorem getLast?_of_ordered {ascents : List Moment}
    (hascents : ascents.Pairwise fun a b => a.version < b.version)
    (hmem : m ∈ ascents) (hgreatest : ∀ a ∈ ascents, a.version ≤ m.version) :
    ascents.getLast? = some m := by
  obtain ⟨before, last, rfl⟩ := List.eq_nil_or_concat' ascents |>.resolve_left
    (List.ne_nil_of_mem hmem)
  rw [List.getLast?_append, List.getLast?_singleton, Option.some_or]
  rcases List.mem_append.1 hmem with hearlier | hlast
  · have hless :=
      (List.pairwise_append.1 hascents).2.2 m hearlier last (by simp)
    have hle := hgreatest last (by simp)
    omega
  · rw [List.mem_singleton.1 hlast]

/-- How the sweeps of a task answer the reconnections of a node. -/
structure SweepsOnce (start : Service) (task : Nat) (transport : Transport)
    (events : List Event) :
    Prop where
  /-- Every sweep belongs to a reconnection of its own, and begins when the wait
  after it is over at the earliest. -/
  own : List.SublistForall₂
    (fun sweep ascent =>
      ascent.time + sleepTime start.config.reconnectSweepDelay.toNat ≤
        sweep.time)
    (start.sweepsBegun task transport events)
    (start.ascents task transport events)
  /-- If the node is up when the task has nothing to look at, a sweep has begun
  after the latest reconnection and the wait after it. -/
  caughtUp : ∀ c, (start.run events).tasks.get? task = some (.observe c) →
    c.transport = transport → (start.run events).nodes.unseen? c = none →
    (start.run events).nodes.state? transport = some .running →
    ∃ ascent sweep,
      (start.ascents task transport events).getLast? = some ascent ∧
      sweep ∈ start.sweepsBegun task transport events ∧
      ascent.time + sleepTime start.config.reconnectSweepDelay.toNat ≤
        sweep.time

/-- Whatever happens to a node and whenever, the task that watches it sweeps for
every reconnection once at most, and for the latest one. -/
theorem sweepsOnce_run (hstart : start.Fresh) (task : Nat)
    (transport : Transport) (events : List Event) :
    start.SweepsOnce task transport events := by
  have hs : start.Accounts task transport events := accounts_run hstart events
  refine ⟨sublistForall₂_of_ordered hs.ordered hs.sweepsOrdered hs.owned, ?_⟩
  intro c htask htransport hsight hrunning
  obtain ⟨⟨state, version⟩, hhistory, rfl⟩ := Option.map_eq_some_iff.1 hrunning
  have hseen : c.seen = some version := by
    rw [NodeStates.unseen?, htransport, hhistory] at hsight
    simpa [Option.filter] using hsight
  have hlooked := hs.looked _ c version htask rfl htransport hseen
  obtain ⟨sweep, hmem, hversion⟩ := hlooked.swept rfl hhistory
  obtain ⟨ascent, hascent, hsame, htime⟩ := hs.owned sweep hmem
  refine ⟨ascent, sweep, getLast?_of_ordered hs.ordered hascent ?_, hmem, htime⟩
  intro a ha
  obtain ⟨h, hhistory', hle⟩ := hs.changed a ha
  cases hhistory.symm.trans hhistory'
  dsimp only at hle
  omega

def watchful (config : ResendConfig) : Service :=
  .new config (.restored none 0) (.new [.clear]) 0

/-- A node comes up, goes down and comes up again before the wait is over. -/
def flapping : List Event :=
  [.start, .setNode .clear .running, .resume 1 true, .pass 4000,
    .setNode .clear .failed, .setNode .clear .running, .pass 6000,
    .resume 1 true, .resume 1 true, .resume 1 true, .pass 10000, .resume 1 true,
    .resume 1 true]

/-- Two reconnections, two sweeps, and each begins ten seconds after its own or
later. -/
theorem sweepsOnce_run_flapping :
    (watchful .standard).SweepsOnce 1 .clear flapping ∧
      (watchful .standard).ascents 1 .clear flapping = [⟨1, 0⟩, ⟨3, 4000⟩] ∧
      (watchful .standard).sweepsBegun 1 .clear flapping =
        [⟨1, 10000⟩, ⟨3, 20000⟩] :=
  ⟨sweepsOnce_run (fresh_new .standard none 0 (.new [.clear]) 0) 1
      .clear flapping,
    by decide +kernel, by decide +kernel⟩

/-- A node comes up, and what is asked for is a wait of a millisecond more than
thirty years. -/
def overlong : List Event :=
  [.start, .setNode .clear .running, .resume 1 true, .pass 946080000000,
    .resume 1 true]

/-- The sweep begins before the wait is over that is asked for. -/
theorem sweep_early :
    (watchful { reconnectSweepDelay := 946080000001 }).Fresh ∧
      ¬ List.SublistForall₂
        (fun sweep ascent => ascent.time +
          (watchful { reconnectSweepDelay :=
            946080000001 }).config.reconnectSweepDelay.toNat ≤
            sweep.time)
        ((watchful { reconnectSweepDelay := 946080000001 }).sweepsBegun 1
          .clear overlong)
        ((watchful { reconnectSweepDelay := 946080000001 }).ascents 1 .clear
          overlong) := by
  refine ⟨fresh_new _ none 0 (.new [.clear]) 0, ?_⟩
  have hascents : (watchful { reconnectSweepDelay := 946080000001 }).ascents 1
      .clear overlong =
      [⟨1, 0⟩] := by decide +kernel
  have hsweeps : (watchful { reconnectSweepDelay := 946080000001 }).sweepsBegun
      1 .clear overlong =
      [⟨1, 946080000000⟩] := by decide +kernel
  rw [hascents, hsweeps]
  intro hassigned
  cases hassigned with
  | cons htime _ => exact absurd htime (by decide +kernel)
  | cons_right hnone => cases hnone

end Service

end Redelivery
