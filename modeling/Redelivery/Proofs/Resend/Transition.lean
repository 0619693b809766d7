import Redelivery.Proofs.Resend.Operations
import Redelivery.Proofs.Resend.Streams

/-!
# What one event can do

An event either finds nothing to do or takes the service through one of a few
changes.  `Transition` lists them with all that is known where they take place,
so that what every event keeps is proved by one case for each of them and no
proof looks into `step` again.
-/

namespace Redelivery.Service

/-! ## The changes -/

/-- A task that follows a message finds a status that it may apply: nobody has
taken its place, and the message has a live record. -/
structure Hears (s : Service) (task : Nat) (cursor seen : StatusCursor)
    (status : DeliveryStatus) (r : Record) : Prop where
  following : s.tasks.get? task = some (.follow cursor)
  sighted : s.source.next cursor = (.changed status, seen)
  running : s.shutDown = false
  current : s.subscriptions.get? cursor.id = some task
  live : s.record? cursor.id = some r

theorem Hears.id_eq {s : Service} {task : Nat} {cursor seen : StatusCursor}
    {status : DeliveryStatus} {r : Record}
    (hhears : s.Hears task cursor seen status r) (hkeyed : s.ledger.Keyed) :
    r.id = cursor.id :=
  hkeyed cursor.id r (Ledger.find?_eq_some_iff.1 hhears.live).1

/-- What a task does that neither follows a message nor waits for ids nor claims
an attempt: the service after it, and what is left of the routine. -/
inductive Chore (s : Service) (saved : Bool) :
    Routine → Service → Routine → Prop
  | save (next : Routine) : Chore s saved (.save next) s (.write s.ledger next)
  | write (copy : Ledger) (next : Routine) (hsaved : saved = true) :
      Chore s saved (.write copy next)
        { s with kept := some copy, saves := s.saves + 1 } next
  | lose (copy : Ledger) (next : Routine) (hlost : saved = false) :
      Chore s saved (.write copy next) s next
  | send (r : Record) (next : Routine) :
      Chore s saved (.send r next)
        { s with outbox := s.outbox ++ [⟨s.clock, r⟩] } next
  | passOver (id : MessageId) (rest : List MessageId) (resent : Nat)
      (watching : Option NodeCursor)
      (hrefused : s.shutDown = true ∨ s.claim id .automatic true = none) :
      Chore s saved (.sweep (id :: rest) resent watching) s
        (.sweep rest resent watching)
  | finish (resent : Nat) (watching : Option NodeCursor) :
      Chore s saved (.sweep [] resent watching) s (.afterSweep resent watching)
  | comeUp (cursor seen : NodeCursor)
      (hup : s.nodes.poll cursor = (some .running, seen)) :
      Chore s saved (.observe cursor) s
        (.debounce seen
          (s.clock + sleepTime s.config.reconnectSweepDelay.toNat))
  | watch (cursor seen : NodeCursor) (state : Option NodeState)
      (hdown : s.nodes.poll cursor = (state, seen))
      (hstate : state ≠ some .running) :
      Chore s saved (.observe cursor) s (.observe seen)
  | sweep (cursor : NodeCursor) (due : Nat) :
      Chore s saved (.debounce cursor due) s
        (.sweep s.candidates 0 (some cursor))

def launch (s : Service) (routine : Routine) : Service :=
  { s.spawn routine with background := s.background ++ [s.nextTask] }

/-- What a service becomes when it is started. -/
def begun (s : Service) : Service :=
  (Routine.listen s.source.announced.size ::
    s.nodes.watch.map fun c => .observe { c with seen := none }).foldl launch
      { s with started := true }.attachKnown

/-- What a service becomes when the time of a current timer has come. -/
def woken (s : Service) (generation : Nat) (id : MessageId) : Service :=
  { s with scheduler := (s.scheduler.wake generation).complete id generation }

inductive Transition (s : Service) : Event → Service → Prop
  /-- There is nothing to do. -/
  | idle (e : Event) : Transition s e s
  | report (id : MessageId) (status : DeliveryStatus) :
      Transition s (.report id status)
        { s with source := s.source.set id status }
  | forget (id : MessageId) :
      Transition s (.forget id) { s with source := s.source.remove id }
  | setNode (transport : Transport) (state : NodeState) :
      Transition s (.setNode transport state)
        { s with nodes := s.nodes.set transport state }
  | pass (millis : Nat) :
      Transition s (.pass millis) { s with clock := s.clock + millis }
  | setCalendar (now : UInt64) :
      Transition s (.setCalendar now) { s with calendar := now }
  | start (hfirst : s.started = false) (hrunning : s.shutDown = false) :
      Transition s .start s.begun
  | shutdown (hrunning : s.shutDown = false) : Transition s .shutdown s.shutdown
  | refuse (e : Event) : Transition s e (s.spawn (.answer 0))
  | retire (r : Record) (hrunning : s.shutDown = false)
      (hreceived : r.status.isReceived = true) :
      Transition s (.register r) ((s.spawn (.save (.answer 0))).apply r none)
  | enroll (r : Record) (hrunning : s.shutDown = false)
      (howed : r.status.isReceived = false) :
      Transition s (.register r)
        (((s.spawn (.save (.answer 0))).apply r none).attach r.id)
  | resend (id : MessageId) (r : Record) (claimed : Service)
      (hrunning : s.shutDown = false)
      (hclaim : s.claim id .manual false = some (r, claimed)) :
      Transition s (.resend id) (claimed.spawn (.save (.send r (.answer 1))))
  | sweep : Transition s .sweep (s.spawn (.sweep s.candidates 0 none))
  /-- A timer's time has come that is not armed any more. -/
  | lapse (generation : Nat) (sleeper : Sleeper)
      (hsleeper : s.scheduler.sleepers.get? generation = some sleeper)
      (hstale : s.shutDown = true ∨
        s.scheduler.isCurrent sleeper.id generation = false) :
      Transition s (.wake generation)
        { s with scheduler := s.scheduler.wake generation }
  | exhaust (generation : Nat) (sleeper : Sleeper)
      (hsleeper : s.scheduler.sleepers.get? generation = some sleeper)
      (hdue : sleeper.due ≤ s.clock) (hrunning : s.shutDown = false)
      (hcurrent : s.scheduler.isCurrent sleeper.id generation = true)
      (hrefused : (s.woken generation sleeper.id).claim sleeper.id .automatic
        false = none) :
      Transition s (.wake generation) (s.woken generation sleeper.id)
  | fire (generation : Nat) (sleeper : Sleeper) (r : Record) (claimed : Service)
      (hsleeper : s.scheduler.sleepers.get? generation = some sleeper)
      (hdue : sleeper.due ≤ s.clock) (hrunning : s.shutDown = false)
      (hcurrent : s.scheduler.isCurrent sleeper.id generation = true)
      (hclaim : (s.woken generation sleeper.id).claim sleeper.id .automatic
        false = some (r, claimed)) :
      Transition s (.wake generation) (claimed.spawn (.save (.send r .stop)))
  | chore (task : Nat) (saved : Bool) (old left : Routine) (t : Service)
      (htask : s.tasks.get? task = some old) (hready : s.isReady old = true)
      (hchore : Chore s saved old t left) :
      Transition s (.resume task saved) (t.setRoutine task left)
  | catchUp (task : Nat) (saved : Bool) (id : MessageId) (rest : List MessageId)
      (resent : Nat) (watching : Option NodeCursor) (r : Record)
      (claimed : Service)
      (htask : s.tasks.get? task = some (.sweep (id :: rest) resent watching))
      (hrunning : s.shutDown = false)
      (hclaim : s.claim id .automatic true = some (r, claimed)) :
      Transition s (.resume task saved)
        (claimed.setRoutine task
          (.save (.send r (.sweep rest (resent + 1) watching))))
  | restate (task : Nat) (saved : Bool) (cursor seen : StatusCursor)
      (status : DeliveryStatus) (r : Record)
      (hhears : s.Hears task cursor seen status r) :
      Transition s (.resume task saved)
        ((s.apply (r.withStatus status) (some task)).setRoutine task
          (.save (if status.isReceived then .stop else .follow seen)))
  /-- A task ends its subscription: the stream has ended, or there is no live
  record. -/
  | drop (task : Nat) (saved : Bool) (cursor : StatusCursor)
      (htask : s.tasks.get? task = some (.follow cursor))
      (hcurrent : s.subscriptions.get? cursor.id = some task)
      (hover : s.source.next cursor = (.closed, cursor) ∨
        s.record? cursor.id = none) :
      Transition s (.resume task saved)
        ({ s with subscriptions := s.subscriptions.erase cursor.id }.setRoutine
          task .stop)
  | leave (task : Nat) (saved : Bool) (cursor : StatusCursor)
      (htask : s.tasks.get? task = some (.follow cursor))
      (hstale : s.shutDown = true ∨
        s.subscriptions.get? cursor.id ≠ some task) :
      Transition s (.resume task saved) (s.setRoutine task .stop)
  | hear (task : Nat) (saved : Bool) (position heard : Nat) (id : MessageId)
      (htask : s.tasks.get? task = some (.listen position))
      (hheard : s.source.hear position = (.announced id, heard)) :
      Transition s (.resume task saved)
        ((s.attachTracked id).setRoutine task (.listen heard))
  /-- Announcements were missed, so every id is looked at. -/
  | rescan (task : Nat) (saved : Bool) (position heard count : Nat)
      (htask : s.tasks.get? task = some (.listen position))
      (hmissed : s.source.hear position = (.missed count, heard)) :
      Transition s (.resume task saved)
        (s.attachKnown.setRoutine task (.listen heard))

/-! ## Beginning and end -/

variable {s : Service}

theorem foldl_launch_eq (routines : List Routine) (s : Service) :
    routines.foldl launch s =
      { s with
        background := (routines.foldl launch s).background
        tasks := (routines.foldl launch s).tasks
        nextTask := (routines.foldl launch s).nextTask } := by
  induction routines generalizing s with
  | nil => rfl
  | cons first rest ih =>
    rw [List.foldl_cons, ih]
    rfl

@[simp]
theorem begun_frame (s : Service) :
    s.begun.config = s.config ∧
      s.begun.ledger = s.ledger ∧
      s.begun.scheduler = s.scheduler ∧
      s.begun.subscriptions =
        ({ s with started := true } : Service).attachKnown.subscriptions ∧
      s.begun.started = true ∧
      s.begun.shutDown = s.shutDown ∧
      s.begun.source = s.source ∧
      s.begun.outbox = s.outbox ∧
      s.begun.clock = s.clock ∧
      s.begun.calendar = s.calendar := by
  unfold begun
  rw [foldl_launch_eq]
  simp

theorem foldl_abort_eq (ended : List Nat) (s : Service) :
    ended.foldl abort s = { s with tasks := (ended.foldl abort s).tasks } := by
  induction ended generalizing s with
  | nil => rfl
  | cons first rest ih =>
    rw [List.foldl_cons, ih]
    rfl

theorem tasks_foldl_abort (ended : List Nat) (s : Service) (task : Nat) :
    (ended.foldl abort s).tasks.get? task =
      if task ∈ ended then none else s.tasks.get? task := by
  induction ended generalizing s with
  | nil => simp
  | cons first rest ih =>
    rw [List.foldl_cons, ih]
    simp only [abort, Table.get?_erase]
    by_cases hrest : task ∈ rest
    · simp [hrest]
    · simp [hrest]

/-- What a service becomes when it is shut down. -/
theorem shutdown_eq (hrunning : s.shutDown = false) :
    s.shutdown =
      { s with
        tasks := ((s.background ++ s.subscriptions.values).foldl abort s).tasks
        shutDown := true
        background := []
        subscriptions := .empty
        scheduler := s.scheduler.cancelAll } := by
  unfold shutdown
  rw [foldl_abort_eq]
  simp [hrunning]

/-! ## Every event is one of them -/

theorem start?_eq (s : Service) :
    s.start? = if s.shutDown then .error .shutDown
      else if s.started then .error .alreadyStarted else .ok s.begun := rfl

theorem step_start (hfirst : s.started = false)
    (hrunning : s.shutDown = false) :
    s.step .start = s.begun := by
  simp [step, start?_eq, hfirst, hrunning]

theorem transition_register (s : Service) (r : Record) :
    Transition s (.register r) (s.register r) := by
  unfold register
  cases hshut : s.shutDown with
  | true => exact .refuse _
  | false =>
    simp only [DeliveryStatus.detach_classify, Bool.false_eq_true, if_false]
    split
    next hreceived => exact .retire r hshut hreceived
    next howed => exact .enroll r hshut (by simpa using howed)

theorem transition_resend (s : Service) (id : MessageId) :
    Transition s (.resend id) (s.resend id) := by
  unfold resend
  cases hshut : s.shutDown with
  | true => exact .refuse _
  | false =>
    simp only [Bool.false_eq_true, if_false]
    split
    next => exact .refuse _
    next r claimed hclaim => exact .resend id r claimed hshut hclaim

theorem transition_start (s : Service) :
    Transition s .start (s.step .start) := by
  simp only [step, start?_eq]
  cases hshut : s.shutDown with
  | true => exact .idle _
  | false =>
    cases hstarted : s.started with
    | true => exact .idle _
    | false => exact .start hstarted hshut

theorem transition_shutdown (s : Service) :
    Transition s .shutdown s.shutdown := by
  cases hshut : s.shutDown with
  | true =>
    have hsame : s.shutdown = s := by simp [shutdown, hshut]
    rw [hsame]
    exact .idle _
  | false => exact .shutdown hshut

theorem transition_wake (s : Service) (generation : Nat) :
    Transition s (.wake generation) (s.wake generation) := by
  unfold wake
  split
  next => exact .idle _
  next sleeper hsleeper =>
    split
    next hdue =>
      have hcurrent :
          (s.scheduler.wake generation).isCurrent sleeper.id generation =
          s.scheduler.isCurrent sleeper.id generation := rfl
      unfold fire
      rw [hcurrent]
      split
      next hstale =>
        exact .lapse generation sleeper hsleeper (by simpa using hstale)
      next hcan =>
        have hcan : s.shutDown = false ∧
            s.scheduler.isCurrent sleeper.id generation = true := by
          simpa using hcan
        simp only
        split
        next hrefused =>
          exact .exhaust generation sleeper hsleeper hdue hcan.1 hcan.2 hrefused
        next r claimed hclaim =>
          exact .fire generation sleeper r claimed hsleeper hdue hcan.1
            hcan.2 hclaim
    next => exact .idle _

theorem work_follow (s : Service) (task : Nat) (saved : Bool)
    (cursor : StatusCursor) :
    s.work task saved (.follow cursor) =
      match s.source.next cursor with
      | (.changed status, seen) => s.onStatus task seen status
      | (.unchanged, _) => (s, .follow cursor)
      | (.closed, _) =>
        if s.subscriptions.get? cursor.id = some task then
          ({ s with subscriptions := s.subscriptions.erase cursor.id }, .stop)
        else (s, .stop) := rfl

theorem work_listen (s : Service) (task : Nat) (saved : Bool) (position : Nat) :
    s.work task saved (.listen position) =
      match s.source.hear position with
      | (.announced id, heard) => (s.attachTracked id, .listen heard)
      | (.missed _, heard) => (s.attachKnown, .listen heard)
      | (.silence, heard) => (s, .listen heard) := by
  generalize hhear : s.source.hear position = hearing
  rcases hearing with ⟨_ | _ | _, heard⟩ <;> unfold work <;> simp only [hhear]

theorem work_observe (s : Service) (task : Nat) (saved : Bool)
    (cursor : NodeCursor) :
    s.work task saved (.observe cursor) =
      match s.nodes.poll cursor with
      | (some .running, seen) =>
        (s, .debounce seen
          (s.clock + sleepTime s.config.reconnectSweepDelay.toNat))
      | (_, seen) => (s, .observe seen) := rfl

/-- What a task does that follows a message. -/
theorem transition_follow {task : Nat} {cursor : StatusCursor} (saved : Bool)
    (htask : s.tasks.get? task = some (.follow cursor))
    (hready : s.isReady (.follow cursor) = true) :
    Transition s (.resume task saved)
      ((s.work task saved (.follow cursor)).1.setRoutine task
        (s.work task saved (.follow cursor)).2) := by
  rw [work_follow]
  cases hnext : s.source.next cursor with
  | mk sighting seen =>
    cases sighting with
    | changed status =>
      have hid : seen.id = cursor.id :=
        (StatusSource.id_of_next_eq_changed hnext).1
      simp only [onStatus, hid]
      by_cases hstale : s.shutDown = true ∨
        s.subscriptions.get? cursor.id ≠ some task
      · rw [if_pos (by simpa using hstale)]
        exact .leave task saved cursor htask hstale
      · rw [if_neg (by simpa using hstale)]
        obtain ⟨hrunning, hcurrent⟩ := not_or.1 hstale
        have hcurrent : s.subscriptions.get? cursor.id = some task :=
          Decidable.not_not.1 hcurrent
        cases hlive : s.record? cursor.id with
        | none => exact .drop task saved cursor htask hcurrent (.inr hlive)
        | some r =>
          have hhears : s.Hears task cursor seen status r :=
            ⟨htask, hnext, by simpa using hrunning, hcurrent, hlive⟩
          simp only [DeliveryStatus.detach_classify]
          exact .restate task saved cursor seen status r hhears
    | unchanged =>
      obtain ⟨hseen, hopen, _⟩ := StatusSource.next_eq_unchanged_iff.1 hnext
      simp [isReady, hseen, ← Option.not_isSome, hopen] at hready
    | closed =>
      obtain ⟨_, _, rfl⟩ := StatusSource.next_eq_closed_iff.1 hnext
      simp only
      split
      next hcurrent => exact .drop task saved seen htask hcurrent (.inl hnext)
      next hother => exact .leave task saved seen htask (.inr hother)

/-- What a task does that waits for announced ids. -/
theorem transition_listen {task position : Nat} (saved : Bool)
    (htask : s.tasks.get? task = some (.listen position))
    (hready : s.isReady (.listen position) = true) :
    Transition s (.resume task saved)
      ((s.work task saved (.listen position)).1.setRoutine task
        (s.work task saved (.listen position)).2) := by
  rw [work_listen]
  cases hhear : s.source.hear position with
  | mk hearing heard =>
    cases hearing with
    | announced id => exact .hear task saved position heard id htask hhear
    | missed count => exact .rescan task saved position heard count htask hhear
    | silence =>
      have hsome : position < s.source.announced.size := by
        simpa [isReady] using hready
      unfold StatusSource.hear at hhear
      simp only [Array.getElem?_eq_getElem hsome] at hhear
      split at hhear <;> cases hhear

/-- What a sweep does with its next candidate. -/
theorem transition_sweep {task : Nat} {id : MessageId} {rest : List MessageId}
    {resent : Nat} {watching : Option NodeCursor} (saved : Bool)
    (htask : s.tasks.get? task = some (.sweep (id :: rest) resent watching)) :
    Transition s (.resume task saved)
      ((s.trySweep id rest resent watching).1.setRoutine task
        (s.trySweep id rest resent watching).2) := by
  have hready : s.isReady (.sweep (id :: rest) resent watching) = true := rfl
  unfold trySweep
  cases hshut : s.shutDown with
  | true =>
    exact .chore task saved _ _ s htask hready (.passOver _ _ _ _ (.inl hshut))
  | false =>
    simp only [Bool.false_eq_true, if_false]
    cases hclaim : s.claim id .automatic true with
    | none =>
      exact .chore task saved _ _ s htask hready
        (.passOver _ _ _ _ (.inr hclaim))
    | some answer =>
      exact .catchUp task saved id rest resent watching _ _ htask hshut hclaim

theorem transition_resume (s : Service) (task : Nat) (saved : Bool) :
    Transition s (.resume task saved) (s.resume task saved) := by
  unfold resume
  cases htask : s.tasks.get? task with
  | none => exact .idle _
  | some routine =>
    simp only
    split
    next hready =>
      cases routine with
      | answer resent => cases hready
      | stop => cases hready
      | save next => exact .chore task saved _ _ s htask hready (.save next)
      | write copy next =>
        cases saved with
        | true =>
          exact .chore task true _ _ _ htask hready (.write copy next rfl)
        | false =>
          exact .chore task false _ _ s htask hready (.lose copy next rfl)
      | send r next => exact .chore task saved _ _ _ htask hready (.send r next)
      | sweep candidates resent watching =>
        cases candidates with
        | nil =>
          exact .chore task saved _ _ s htask hready (.finish resent watching)
        | cons id rest => exact transition_sweep saved htask
      | follow cursor => exact transition_follow saved htask hready
      | listen position => exact transition_listen saved htask hready
      | observe cursor =>
        rw [work_observe]
        cases hpoll : s.nodes.poll cursor with
        | mk state seen =>
          by_cases hup : state = some .running
          · subst hup
            exact .chore task saved _ _ s htask hready
              (.comeUp cursor seen hpoll)
          · have hwatch := Transition.chore task saved _ _ s htask hready
              (.watch cursor seen state hpoll hup)
            cases state with
            | none => exact hwatch
            | some state =>
              cases state <;> first | exact hwatch | exact absurd rfl hup
      | debounce cursor due =>
        exact .chore task saved _ _ s htask hready (.sweep cursor due)
    next => exact .idle _

/-- Every event takes the service through one of the changes. -/
theorem transition_step (s : Service) (e : Event) :
    Transition s e (s.step e) := by
  cases e with
  | register r => exact transition_register s r
  | resend id => exact transition_resend s id
  | sweep => exact .sweep
  | start => exact transition_start s
  | shutdown => exact transition_shutdown s
  | report id status => exact .report id status
  | forget id => exact .forget id
  | setNode transport state => exact .setNode transport state
  | pass millis => exact .pass millis
  | setCalendar now => exact .setCalendar now
  | wake generation => exact transition_wake s generation
  | resume task saved => exact transition_resume s task saved

/-! ## Runs -/

@[simp]
theorem run_nil (s : Service) : s.run [] = s := rfl

@[simp]
theorem run_cons (s : Service) (e : Event) (events : List Event) :
    s.run (e :: events) = (s.step e).run events := rfl

theorem run_append (s : Service) (first second : List Event) :
    s.run (first ++ second) = (s.run first).run second :=
  List.foldl_append

theorem run_concat (s : Service) (events : List Event) (e : Event) :
    s.run (events ++ [e]) = (s.run events).step e :=
  s.run_append events [e]

/-- What every change keeps, every run keeps. -/
theorem run_induction {P : Service → Prop} {events : List Event} (hbefore : P s)
    (hkept : ∀ t u, ∀ e ∈ events, Transition t e u → P t → P u) :
    P (s.run events) :=
  List.foldlRecOn events step hbefore fun t ht e he =>
    hkept t (t.step e) e he (transition_step t e) ht

end Redelivery.Service
