import Redelivery.Proofs.Resend.Messages
import Redelivery.Proofs.Resend.Upkeep

/-!
# Runs from the beginning

A service begins over a ledger that is new or was loaded, with no timer, no task
and no subscription.  Its parts are in step then, so they are in every run.
-/

namespace Redelivery

def Record.waiting (id : MessageId) : Record :=
  { (default : Record) with id := id, status := .sent, expiresAt := 100 }

namespace Service

/-- A service that nothing has happened to yet. -/
structure Fresh (s : Service) : Prop where
  loaded : ∃ kept now, s.ledger = .restored kept now
  scheduler : s.scheduler = .empty
  subscriptions : s.subscriptions = .empty
  background : s.background = []
  tasks : s.tasks = .empty
  started : s.started = false
  shutDown : s.shutDown = false
  source : s.source.Arises

variable {s t : Service} {e : Event} {id : MessageId}

theorem fresh_new (config : ResendConfig) (kept : Option Ledger) (now : UInt64)
    (nodes : NodeStates) (calendar : UInt64) :
    (Service.new config (.restored kept now) nodes calendar).Fresh :=
  ⟨⟨kept, now, rfl⟩, rfl, rfl, rfl, rfl, rfl, rfl, .empty⟩

theorem Fresh.of_reload (hsource : s.source.Arises) : s.reload.Fresh :=
  ⟨⟨s.kept, s.calendar, rfl⟩, rfl, rfl, rfl, rfl, rfl, rfl, hsource⟩

theorem Fresh.coherent (hs : s.Fresh) (hkeyed : s.ledger.Keyed) :
    s.Coherent where
  ledger := by
    obtain ⟨kept, now, hloaded⟩ := hs.loaded
    refine ⟨hkeyed, ?_⟩
    rw [hloaded]
    exact Ledger.counted_restored kept now
  timers := by
    intro id timer htimer
    simp [hs.scheduler, Scheduler.empty] at htimer
  matched := by
    rw [hs.scheduler]
    exact Scheduler.matched_empty
  tracked := by
    intro id task hfollower
    simp [hs.subscriptions] at hfollower
  followed := by
    intro id task
    simp [hs.subscriptions, cursor?, hs.tasks]
  numbered := by
    intro task _
    simp [hs.tasks]
  ended := by
    intro _ id
    simp [hs.scheduler, hs.subscriptions, Scheduler.empty]

theorem Coherent.run (hs : s.Coherent) (events : List Event) :
    (s.run events).Coherent :=
  run_induction hs fun _ _ _ _ htransition ht => ht.transition htransition

/-- A run from the beginning leads here, over a ledger with every record under
its own id. -/
def Reachable (s : Service) : Prop :=
  ∃ (start : Service) (events : List Event),
    start.Fresh ∧ start.ledger.Keyed ∧ s = start.run events

theorem Reachable.coherent (hs : s.Reachable) : s.Coherent := by
  obtain ⟨start, events, hstart, hkeyed, rfl⟩ := hs
  exact (hstart.coherent hkeyed).run events

theorem Reachable.run (hs : s.Reachable) (events : List Event) :
    (s.run events).Reachable := by
  obtain ⟨start, before, hstart, hkeyed, rfl⟩ := hs
  exact ⟨start, before ++ events, hstart, hkeyed,
    (start.run_append before events).symm⟩

theorem Reachable.step (hs : s.Reachable) (e : Event) : (s.step e).Reachable :=
  hs.run [e]

def collect {α : Type} (tells : Service → Event → Option α) (s : Service) :
    List Event → List α
  | [] => []
  | e :: rest => (tells s e).toList ++ (s.step e).collect tells rest

theorem collect_concat {α : Type} (tells : Service → Event → Option α)
    (s : Service) (events : List Event) (e : Event) :
    s.collect tells (events ++ [e]) =
      s.collect tells events ++ (tells (s.run events) e).toList := by
  induction events generalizing s with
  | nil => simp [collect]
  | cons first rest ih => simp [collect, ih]

/-- A service that follows the message of a live record, with nothing left to
do. -/
def following : Service :=
  (Service.new .standard .empty default 0).run
    [.start, .report ⟨"m1"⟩ .sent, .resume 0 true, .register (.waiting ⟨"m1"⟩),
      .resume 1 true, .resume 1 true]

theorem reachable_following : following.Reachable :=
  ⟨_, _, fresh_new .standard none 0 default 0, Ledger.keyed_empty, rfl⟩

/-- A service over a ledger that has a record under another id than its own. -/
def misplaced : Service :=
  (Service.new .standard ⟨.ofList [(⟨"a"⟩, .waiting ⟨"b"⟩)], .empty⟩ default
    0).run [.report ⟨"a"⟩ .sent, .start]

/-- A record that is applied stays only if it is not of a message that is
delivered. -/
theorem Transition.undelivered (htransition : Transition s e t)
    (hs : s.ledger.Undelivered) : t.ledger.Undelivered := by
  rcases htransition.ledger_cases with hsame | ⟨r, _, hledger⟩ |
    ⟨id, n, _, hledger⟩
  · rwa [hsame]
  · rw [hledger]
    split
    next => exact hs.remove r.id
    next howed => exact hs.upsert (Bool.eq_false_iff.2 howed)
  · rw [hledger]
    exact hs

/-- In every run, records, counters, timers, subscriptions and tasks stay in
step, and no record is of a message that is known to be delivered. -/
theorem coherent_of_run (hstart : s.Fresh) (hkeyed : s.ledger.Keyed)
    (hundelivered : s.ledger.Undelivered) (events : List Event) :
    (s.run events).Coherent ∧ (s.run events).ledger.Undelivered := by
  constructor
  · exact (hstart.coherent hkeyed).run events
  · apply run_induction (P := fun t => t.ledger.Undelivered) hundelivered
    intro t u e _ htransition ht
    exact htransition.undelivered ht

/-- A loaded record is followed when its message is reported on, and the status
is applied. -/
theorem coherent_of_run_loaded :
    ((Service.new .standard
      (.restored (some (Ledger.empty.upsert (.waiting ⟨"m1"⟩))) 5)
      default 5).run [.start, .report ⟨"m1"⟩ .failed, .resume 0 true,
        .resume 1 true]).Coherent ∧
    ((Service.new .standard
      (.restored (some (Ledger.empty.upsert (.waiting ⟨"m1"⟩))) 5)
      default 5).run
        [.start, .report ⟨"m1"⟩ .failed, .resume 0 true,
          .resume 1 true]).ledger.Undelivered := by
  have hkeyed : (Ledger.empty.upsert (.waiting ⟨"m1"⟩)).Keyed :=
    Ledger.keyed_empty.upsert (.waiting ⟨"m1"⟩)
  have hundelivered : (Ledger.empty.upsert (.waiting ⟨"m1"⟩)).Undelivered :=
    Ledger.undelivered_empty.upsert rfl
  refine coherent_of_run (fresh_new _ _ _ _ _) ?_ ?_ _
  · apply Ledger.Keyed.restored
    rintro l ⟨⟩
    exact hkeyed
  · apply Ledger.Undelivered.restored
    rintro l ⟨⟩
    exact hundelivered

end Service

end Redelivery
