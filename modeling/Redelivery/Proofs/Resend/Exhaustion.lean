import Mathlib.Algebra.Order.BigOperators.Ring.Finset
import Mathlib.Order.Lattice.Nat
import Redelivery.Proofs.Resend.Retries

/-!
# Automatic retrying ends

A service without anything to do is left to itself: timers fire, tasks go on,
nodes come and go, and a sweep may be asked for at any time.  The gateway
answers as it likes, but every message that is handed over at most once.  A
timer that fires was armed before, or by a status that was applied since; such a
status answers a message that was handed over since; and every message that was
handed over took an attempt.  So attempts bound statuses, and statuses bound
timers.
-/

namespace Redelivery

def Event.reports (events : List Event) : List MessageId :=
  events.filterMap Event.reported?

/-- Whether an event leaves the calendar alone and tells nothing of a
message. -/
def Event.isSilent : Event → Bool
  | .report .. | .setCalendar _ => false
  | _ => true

theorem Event.reports_concat (events : List Event) (e : Event) :
    reports (events ++ [e]) = reports events ++ e.reported?.toList := by
  rw [reports, List.filterMap_append]
  cases hreported : e.reported? <;> simp [hreported, reports]

namespace Service

variable {s : Service} {e : Event} {events : List Event} {id : MessageId}

/-! ## What a run tells -/

/-- The messages whose timers' time comes in a run. -/
def firings (s : Service) (events : List Event) : List MessageId :=
  s.collect fired? events

/-- The messages that a status is applied to in a run. -/
def applications (s : Service) (events : List Event) : List MessageId :=
  s.collect applied? events

def handovers (s : Service) (events : List Event) (id : MessageId) : Nat :=
  ((s.run events).outbox.drop s.outbox.length).countP fun d => d.record.id = id

/-! ## A service that is left to itself -/

/-- An event may follow some others: it goes on with what was begun, the
calendar does not go back, and the gateway reports on a message only if it was
handed over more often than it was reported on. -/
structure Proceeds (s : Service) (first : List Event) (e : Event) : Prop where
  continuing : e.isContinuing = true
  clock : ∀ now, e = .setCalendar now → (s.run first).calendar ≤ now
  answers : ∀ id, e.reported? = some id →
    (Event.reports first).count id < s.handovers first id

/-- A service is left to itself: every event may follow those before it. -/
def Continues (s : Service) (events : List Event) : Prop :=
  ∀ first e rest, events = first ++ e :: rest → s.Proceeds first e

theorem continues_nil (s : Service) : s.Continues [] := by
  intro first e rest hsplit
  simp at hsplit

theorem continues_concat_iff :
    s.Continues (events ++ [e]) ↔ s.Continues events ∧ s.Proceeds events e := by
  constructor
  · intro hevents
    refine ⟨?_, hevents events e [] rfl⟩
    rintro first e' rest rfl
    exact hevents first e' (rest ++ [e]) (by simp)
  · rintro ⟨hevents, hlast⟩ first e' rest hsplit
    rcases List.eq_nil_or_concat rest with rfl | ⟨rest', e'', rfl⟩
    · obtain ⟨rfl, heq⟩ := List.append_inj' hsplit rfl
      cases heq
      exact hlast
    · have hends : events ++ [e] = (first ++ e' :: rest') ++ [e''] := by
        simpa using hsplit
      exact hevents first e' rest' (List.append_inj' hends rfl).1

theorem Proceeds.of_isSilent (hcontinuing : e.isContinuing = true)
    (hsilent : e.isSilent = true) :
    s.Proceeds events e where
  continuing := hcontinuing
  clock := by
    rintro now rfl
    cases hsilent
  answers := by
    intro id hreported
    cases e with
    | report => cases hsilent
    | _ => cases hreported

theorem outbox_run (s : Service) (events : List Event) :
    ∃ sent, (s.run events).outbox = s.outbox ++ sent := by
  refine run_induction (P := fun t => ∃ sent, t.outbox = s.outbox ++ sent)
    ⟨[], by simp⟩ ?_
  rintro t u e - htransition ⟨sent, ht⟩
  obtain ⟨more, hu⟩ := htransition.frames.outbox
  exact ⟨sent ++ more, by rw [hu, ht, List.append_assoc]⟩

theorem handovers_concat_le (s : Service) (events : List Event) (e : Event)
    (id : MessageId) :
    s.handovers events id ≤ s.handovers (events ++ [e]) id := by
  obtain ⟨sent, hsent⟩ := s.outbox_run events
  obtain ⟨more, hmore⟩ := (transition_step (s.run events) e).frames.outbox
  rw [handovers, handovers, run_concat, hmore, hsent]
  simp

/-- No message is reported on more often than it was handed over. -/
theorem Continues.reports_le (hevents : s.Continues events) (id : MessageId) :
    (Event.reports events).count id ≤ s.handovers events id := by
  induction events using List.reverseRecOn with
  | nil => simp [Event.reports]
  | append_singleton events e ih =>
    obtain ⟨hbefore, hlast⟩ := continues_concat_iff.1 hevents
    have hmore := s.handovers_concat_le events e id
    rw [Event.reports_concat, List.count_append]
    by_cases hreported : e.reported? = some id
    · have hfewer := hlast.answers id hreported
      simp only [hreported, Option.toList_some, List.count_singleton_self]
      omega
    · have hnone : e.reported?.toList.count id = 0 :=
        List.count_eq_zero.2 fun hmem => hreported (Option.mem_toList.1 hmem)
      have hle := ih hbefore
      omega

/-! ## Statuses and timers along a run -/

theorem Steady.run (hs : s.Steady) (hevents : s.Continues events) :
    (s.run events).Steady := by
  induction events using List.reverseRecOn with
  | nil => exact hs
  | append_singleton events e ih =>
    obtain ⟨hbefore, hlast⟩ := continues_concat_iff.1 hevents
    rw [run_concat]
    exact (ih hbefore).step hlast.continuing

/-- What a run applies is taken from the outlook, and only reports add to it. -/
theorem Steady.outlook_run (hs : s.Steady) (hevents : s.Continues events)
    (hroom : s.config.maxAutoResends.toNat < UInt32.size - 1) (id : MessageId) :
    (s.run events).outlook id + (s.applications events).count id ≤
      s.outlook id + (Event.reports events).count id := by
  induction events using List.reverseRecOn with
  | nil => exact Nat.le_refl _
  | append_singleton events e ih =>
    obtain ⟨hbefore, hlast⟩ := continues_concat_iff.1 hevents
    have hle := ih hbefore
    have hstep := (hs.run hbefore).outlook_step hlast.continuing hlast.clock
      (by rwa [config_run]) id
    rw [run_concat, applications, collect_concat, Event.reports_concat,
      List.count_append, List.count_append]
    rw [applications] at hle
    omega

/-- A timer that fires was armed before the run or by a status that the run
applies. -/
theorem Steady.isArmed_run (hs : s.Steady) (hevents : s.Continues events)
    (id : MessageId) :
    ((s.run events).scheduler.isArmed id).toNat + (s.firings events).count id ≤
      (s.scheduler.isArmed id).toNat + (s.applications events).count id := by
  induction events using List.reverseRecOn with
  | nil => exact Nat.le_refl _
  | append_singleton events e ih =>
    obtain ⟨hbefore, hlast⟩ := continues_concat_iff.1 hevents
    have hle := ih hbefore
    have hstep := (hs.run hbefore).isArmed_step e id
    rw [run_concat, applications, firings, collect_concat, collect_concat,
      List.count_append, List.count_append]
    rw [applications, firings] at hle
    omega

/-! ## Where nothing is under way -/

/-- Nothing is claimed that was not handed over, and no status waits to be
heard. -/
structure Quiescent (s : Service) : Prop where
  steady : s.Steady
  owed : s.owed = []
  heard : ∀ id, s.unheard id = false

theorem owed_of_idle (hidle : s.idle = true) : s.owed = [] := by
  rw [owed, List.flatMap_eq_nil_iff]
  intro routine hmem
  obtain ⟨task, htask⟩ := (Table.mem_values_iff _ _).1 hmem
  have hready := isReady_of_idle hidle htask
  cases routine with
  | save => simp [isReady, isWriting_of_idle hidle] at hready
  | write | send => cases hready
  | _ => rfl

/-- A service with nothing to do that follows all that it should has nothing
under way. -/
theorem quiescent_of_idle {start : Service} {before : List Event}
    (hstart : start.Fresh) (hkeyed : (start.run before).ledger.Keyed)
    (hidle : (start.run before).idle = true)
    (hfollowed : ∀ id, ((start.run before).record? id).isSome = true →
      ((start.run before).source.status? id).isSome = true →
        (start.run before).isSubscribed id = true) :
    (start.run before).Quiescent where
  steady := by
    refine ⟨separate_run hstart before, hkeyed, ?_,
      hstart.attentive.run before, ?_⟩
    · obtain ⟨kept, now, hloaded⟩ := hstart.loaded
      refine counted_run ?_ before
      rw [hloaded]
      exact Ledger.counted_restored kept now
    · exact fun task cursor hcursor => (follow_of_idle hidle hcursor).2.2
  owed := owed_of_idle hidle
  heard := by
    intro id
    rw [Bool.eq_false_iff]
    intro hunheard
    cases hfollower : (start.run before).subscriptions.get? id with
    | some task =>
      cases hcursor : (start.run before).cursor? task with
      | none => simp [unheard, hfollower, hcursor] at hunheard
      | some cursor =>
        rw [unheard_of_follower hfollower hcursor,
          (follow_of_idle hidle hcursor).2.1] at hunheard
        cases hunheard
    | none =>
      rw [unheard_of_unfollowed hfollower, Bool.and_eq_true] at hunheard
      have hsubscribed := hfollowed id hunheard.1
        (by simpa [StatusSource.status?] using hunheard.2)
      simp [isSubscribed, Table.contains_eq, hfollower] at hsubscribed

/-- A status is applied to a message at most once for every attempt that was
left. -/
theorem Quiescent.applications_le (hs : s.Quiescent)
    (hevents : s.Continues events)
    (hroom : s.config.maxAutoResends.toNat < UInt32.size - 1) (id : MessageId) :
    (s.applications events).count id ≤ s.remaining id := by
  have hrun := hs.steady.outlook_run hevents hroom id
  have hreports := hevents.reports_le id
  have hdealt :
      s.dealtTo id + s.handovers events id ≤ (s.run events).dealtTo id := by
    obtain ⟨sent, hsent⟩ := s.outbox_run events
    simp only [dealtTo, handovers, hs.owed, hsent, List.append_nil,
      List.map_append, List.countP_append, List.drop_left, List.countP_map]
    exact Nat.le_add_right _ _
  simp only [outlook, hs.heard id, Bool.toNat_false] at hrun
  omega

/-- A timer of a message fires at most once for every attempt that was left, and
once more if it was armed already. -/
theorem Quiescent.firings_le (hs : s.Quiescent) (hevents : s.Continues events)
    (hroom : s.config.maxAutoResends.toNat < UInt32.size - 1) (id : MessageId) :
    (s.firings events).count id ≤
      (s.scheduler.isArmed id).toNat + s.remaining id := by
  have hrun := hs.steady.isArmed_run hevents id
  have happlications := hs.applications_le hevents hroom id
  omega

/-! ## All messages together -/

def tracked (s : Service) : List MessageId :=
  s.ledger.records.keys.filter fun id => (s.record? id).isSome

/-- The attempts that timers and sweeps have left for all messages together. -/
def allowance (s : Service) : Nat :=
  (s.tracked.map fun id => s.config.maxAutoResends.toNat + 1 - s.made id).sum

/-- A sum over the members of a list is within the sum over a list that has all
of them that count. -/
theorem sum_toFinset_le {bound : MessageId → Nat} {keys : List MessageId}
    (hkeys : keys.Nodup) (hzero : ∀ id, id ∉ keys → bound id = 0)
    (ids : List MessageId) :
    ∑ id ∈ ids.toFinset, bound id ≤ (keys.map bound).sum := by
  rw [← List.sum_toFinset bound hkeys]
  apply Finset.sum_le_sum_of_ne_zero
  intro id _ hcounts
  rw [List.mem_toFinset]
  by_contra hmissing
  exact hcounts (hzero id hmissing)

theorem nodup_tracked (s : Service) : s.tracked.Nodup :=
  s.ledger.records.nodup_keys.filter _

theorem mem_tracked_iff : id ∈ s.tracked ↔ (s.record? id).isSome = true := by
  rw [tracked, List.mem_filter, Table.mem_keys_iff]
  constructor
  · exact fun hmem => hmem.2
  · intro hlive
    exact ⟨Ledger.contains_of_find? hlive, hlive⟩

theorem sum_remaining_le (s : Service) (ids : List MessageId) :
    ∑ id ∈ ids.toFinset, s.remaining id ≤ s.allowance := by
  have hsame : s.tracked.map s.remaining =
      s.tracked.map fun id =>
        s.config.maxAutoResends.toNat + 1 - s.made id := by
    refine List.map_congr_left fun id hmem => ?_
    rw [remaining, if_pos (mem_tracked_iff.1 hmem)]
  rw [allowance, ← hsame]
  refine sum_toFinset_le s.nodup_tracked ?_ ids
  intro id hmissing
  rw [remaining, if_neg]
  exact fun hlive => hmissing (mem_tracked_iff.2 hlive)

theorem sum_isArmed_le (s : Service) (ids : List MessageId) :
    ∑ id ∈ ids.toFinset,
      (s.scheduler.isArmed id).toNat ≤ s.scheduler.timers.size := by
  have hone : s.scheduler.timers.keys.map
      (fun id => (s.scheduler.isArmed id).toNat) =
      s.scheduler.timers.keys.map fun _ => 1 := by
    refine List.map_congr_left fun id hmem => ?_
    simp [Scheduler.isArmed, Table.contains_eq, (Table.mem_keys_iff _ _).1 hmem]
  have hsize :
      (s.scheduler.timers.keys.map fun id =>
        (s.scheduler.isArmed id).toNat).sum =
      s.scheduler.timers.size := by
    rw [hone, List.map_const', List.sum_replicate_nat, Nat.mul_one]
    exact List.length_map ..
  rw [← hsize]
  refine sum_toFinset_le s.scheduler.timers.nodup_keys ?_ ids
  intro id hmissing
  have hunarmed : s.scheduler.isArmed id = false := by
    rw [Bool.eq_false_iff]
    exact fun harmed => hmissing ((Table.mem_keys_iff _ _).2 harmed)
  rw [hunarmed]
  rfl

/-- A status is applied at most once for every attempt that was left. -/
theorem Quiescent.length_applications_le (hs : s.Quiescent)
    (hevents : s.Continues events)
    (hroom : s.config.maxAutoResends.toNat < UInt32.size - 1) :
    (s.applications events).length ≤ s.allowance := by
  rw [← List.sum_toFinset_count_eq_length]
  exact (Finset.sum_le_sum fun id _ =>
    hs.applications_le hevents hroom id).trans (s.sum_remaining_le _)

theorem Quiescent.length_firings_le (hs : s.Quiescent)
    (hevents : s.Continues events)
    (hroom : s.config.maxAutoResends.toNat < UInt32.size - 1) :
    (s.firings events).length ≤ s.scheduler.timers.size + s.allowance := by
  rw [← List.sum_toFinset_count_eq_length]
  refine (Finset.sum_le_sum fun id _ => hs.firings_le hevents hroom id).trans ?_
  rw [Finset.sum_add_distrib]
  exact Nat.add_le_add (s.sum_isArmed_le _) (s.sum_remaining_le _)

/-! ## In the long run -/

def opening (sequence : Nat → Event) (n : Nat) : List Event :=
  (List.range n).map sequence

theorem opening_succ (sequence : Nat → Event) (n : Nat) :
    opening sequence (n + 1) = opening sequence n ++ [sequence n] := by
  simp [opening, List.range_succ]

/-- A service is left to itself for ever: time goes on without bound, and
everything whose time has come is let go some time. -/
structure Endures (s : Service) (sequence : Nat → Event) : Prop where
  continues : ∀ n, s.Continues (opening sequence n)
  clock : ∀ n time, ∃ m, n ≤ m ∧ time ≤ (s.run (opening sequence m)).clock
  turns : ∀ n generation sleeper,
    (s.run (opening sequence n)).scheduler.sleepers.get? generation =
      some sleeper →
    sleeper.due ≤ (s.run (opening sequence n)).clock →
    ∃ m, n ≤ m ∧
      (s.run (opening sequence m)).scheduler.sleepers.get? generation = none

/-- From some point on no timer fires and no status is applied: how often either
has happened only grows, and is bounded. -/
theorem Quiescent.calms (hs : s.Quiescent) {sequence : Nat → Event}
    (hendures : s.Endures sequence)
    (hroom : s.config.maxAutoResends.toNat < UInt32.size - 1) :
    ∃ n, ∀ m, n ≤ m → (s.run (opening sequence m)).fired? (sequence m) = none ∧
      (s.run (opening sequence m)).applied? (sequence m) = none := by
  let count (n : Nat) : Nat :=
    (s.firings (opening sequence n)).length +
      (s.applications (opening sequence n)).length
  have hbounded : BddAbove (Set.range count) := by
    refine ⟨s.scheduler.timers.size + s.allowance + s.allowance, ?_⟩
    rintro _ ⟨n, rfl⟩
    have hfirings := hs.length_firings_le (hendures.continues n) hroom
    have happlications := hs.length_applications_le (hendures.continues n) hroom
    exact Nat.add_le_add hfirings happlications
  have hsucc (n : Nat) : count (n + 1) = count n +
      ((s.run (opening sequence n)).fired? (sequence n)).toList.length +
      ((s.run (opening sequence n)).applied? (sequence n)).toList.length := by
    simp only [count, firings, applications, opening_succ, collect_concat,
      List.length_append]
    omega
  have hmono : Monotone count := monotone_nat_of_le_succ fun n => by
    rw [hsucc]
    omega
  obtain ⟨n, hgreatest⟩ := Nat.sSup_mem (Set.range_nonempty count) hbounded
  refine ⟨n, fun m hm => ?_⟩
  have hlater : count (m + 1) ≤ count n := by
    rw [hgreatest]
    exact le_csSup hbounded ⟨m + 1, rfl⟩
  have hnow := hmono hm
  have hstep := hsucc m
  constructor
  · rw [← Option.toList_eq_nil_iff, ← List.length_eq_zero_iff]
    omega
  · rw [← Option.toList_eq_nil_iff, ← List.length_eq_zero_iff]
    omega

/-- What every timer of a service that is left to itself comes to. -/
structure RunsDry (s : Service) : Prop where
  /-- No message has more firings than its own timer and its own attempts
  allow. -/
  each : ∀ events, s.Continues events → ∀ id,
    (s.firings events).count id ≤
      (s.scheduler.isArmed id).toNat + s.remaining id
  bounded : ∀ events, s.Continues events →
    (s.firings events).length ≤ s.scheduler.timers.size + s.allowance
  /-- As long as a timer is armed, another one fires if only time goes on. -/
  unfinished : ∀ events id, s.Continues events →
    (s.run events).scheduler.isArmed id = true →
    ∃ millis generation,
      s.Continues (events ++ [.pass millis, .wake generation]) ∧
      s.firings (events ++ [.pass millis, .wake generation]) =
        s.firings events ++ [id]
  /-- In the long run the last timer has fired, and none is armed any more. -/
  ends : ∀ sequence, s.Endures sequence → ∃ n, ∀ m, n ≤ m →
    s.firings (opening sequence m) = s.firings (opening sequence n) ∧
      ∀ id, (s.run (opening sequence m)).scheduler.isArmed id = false

theorem Quiescent.unfinished (hs : s.Quiescent) (hevents : s.Continues events)
    (harmed : (s.run events).scheduler.isArmed id = true) :
    ∃ millis generation,
      s.Continues (events ++ [.pass millis, .wake generation]) ∧
      s.firings (events ++ [.pass millis, .wake generation]) =
        s.firings events ++ [id] := by
  obtain ⟨timer, htimer⟩ := Option.isSome_iff_exists.1 harmed
  obtain ⟨due, hsleeper⟩ :=
    (hs.steady.run hevents).separate.matched.waiting id timer htimer
  have hsplit : events ++ [.pass due, .wake timer.generation] =
      (events ++ [.pass due]) ++ [.wake timer.generation] := by simp
  refine ⟨due, timer.generation, ?_, ?_⟩
  · rw [hsplit, continues_concat_iff, continues_concat_iff]
    exact ⟨⟨hevents, .of_isSilent rfl rfl⟩, .of_isSilent rfl rfl⟩
  · have hpass : s.firings (events ++ [.pass due]) = s.firings events := by
      rw [firings, collect_concat]
      exact List.append_nil _
    have hwake : (s.run (events ++ [.pass due])).fired?
        (.wake timer.generation) = some id := by
      rw [run_concat]
      simp [fired?, step, hsleeper]
    rw [hsplit, firings, collect_concat, hwake]
    exact congrArg (· ++ [id]) hpass

theorem Quiescent.ends (hs : s.Quiescent) {sequence : Nat → Event}
    (hendures : s.Endures sequence)
    (hroom : s.config.maxAutoResends.toNat < UInt32.size - 1) :
    ∃ n, ∀ m, n ≤ m →
      s.firings (opening sequence m) = s.firings (opening sequence n) ∧
      ∀ id, (s.run (opening sequence m)).scheduler.isArmed id = false := by
  obtain ⟨n, hcalm⟩ := hs.calms hendures hroom
  have hstays : ∀ m,
      n ≤ m → s.firings (opening sequence m) = s.firings (opening sequence n) ∧
      (s.run (opening sequence m)).scheduler =
        (s.run (opening sequence n)).scheduler := by
    intro m hm
    induction m, hm using Nat.le_induction with
    | base => exact ⟨rfl, rfl⟩
    | succ m hm ih =>
      obtain ⟨hfired, happlied⟩ := hcalm m hm
      have hlast := (continues_concat_iff.1
        (opening_succ sequence m ▸ hendures.continues (m + 1))).2
      have hsteady := hs.steady.run (hendures.continues m)
      rw [opening_succ, firings, collect_concat, hfired, run_concat,
        hsteady.scheduler_of_quiet hlast.continuing happlied hfired]
      simpa [firings] using ih
  refine ⟨n, fun m hm => ⟨(hstays m hm).1, fun id => ?_⟩⟩
  rw [(hstays m hm).2, Bool.eq_false_iff]
  intro harmed
  obtain ⟨timer, htimer⟩ := Option.isSome_iff_exists.1 harmed
  obtain ⟨due, hsleeper⟩ :=
    (hs.steady.run (hendures.continues n)).separate.matched.waiting id
      timer htimer
  obtain ⟨late, hlate, hdue⟩ := hendures.clock n due
  obtain ⟨gone, hgone, hmissing⟩ :=
    hendures.turns late timer.generation ⟨id, due⟩
      (by rw [(hstays late hlate).2, hsleeper]) hdue
  rw [(hstays gone (hlate.trans hgone)).2, hsleeper] at hmissing
  cases hmissing

/-- From any state with nothing to do, over a ledger with every record under its
own id, and with every live record followed that the source holds a status for,
automatic retrying ends: the timers that fire are at most those that were armed
and the attempts that were left, another one fires as long as one is armed, and
in the long run none is. -/
theorem runsDry_of_idle {start : Service} {before : List Event}
    (hstart : start.Fresh) (hkeyed : (start.run before).ledger.Keyed)
    (hidle : (start.run before).idle = true)
    (hfollowed : ∀ id, ((start.run before).record? id).isSome = true →
      ((start.run before).source.status? id).isSome = true →
        (start.run before).isSubscribed id = true)
    (hroom : (start.run before).config.maxAutoResends.toNat < UInt32.size - 1) :
    (start.run before).RunsDry := by
  have hquiescent := quiescent_of_idle hstart hkeyed hidle hfollowed
  exact
    { each := fun _ hevents id => hquiescent.firings_le hevents hroom id
      bounded := fun _ hevents => hquiescent.length_firings_le hevents hroom
      unfinished :=
        fun _ _ hevents harmed => hquiescent.unfinished hevents harmed
      ends := fun _ hendures => hquiescent.ends hendures hroom }

/-- The timer of the message that is followed fires, and then nothing but time
goes on. -/
def lastFiring : Nat → Event
  | 0 => .pass 120000
  | 1 => .wake 0
  | _ => .pass 1

theorem run_lastFiring (n : Nat) :
    following.run (opening lastFiring (n + 2)) =
      { following.run (opening lastFiring 2) with
        clock := (following.run (opening lastFiring 2)).clock + n } := by
  induction n with
  | zero => rfl
  | succ n ih =>
    rw [opening_succ, run_concat, ih]
    rfl

theorem endures_lastFiring : following.Endures lastFiring where
  continues := by
    intro n
    induction n with
    | zero => exact continues_nil following
    | succ n ih =>
      rw [opening_succ, continues_concat_iff]
      refine ⟨ih, ?_⟩
      match n with
      | 0 | 1 | _ + 2 => exact .of_isSilent rfl rfl
  clock := by
    intro n time
    refine ⟨n + time + 2, by omega, ?_⟩
    rw [run_lastFiring]
    exact (Nat.le_add_left time n).trans (Nat.le_add_left (n + time) _)
  turns := by
    intro n generation _ _ _
    refine ⟨n + 2, by omega, ?_⟩
    have hempty :
        (following.run (opening lastFiring 2)).scheduler.sleepers = .empty := by
      decide +kernel
    rw [run_lastFiring]
    simp [hempty]

/-- One message with one timer and two attempts left: at most three timers
fire. -/
theorem runsDry_of_idle_following :
    following.RunsDry ∧ following.Endures lastFiring ∧
    following.scheduler.timers.size = 1 ∧
      following.allowance = 2 := by
  refine ⟨runsDry_of_idle (fresh_new .standard none 0 default 0) ?_
      (by decide +kernel) ?_ (by decide +kernel),
    endures_lastFiring, by decide +kernel, by decide +kernel⟩
  · exact reachable_following.coherent.ledger.keyed
  · intro id _ hstatus
    have hheld : id ∈ following.source.ids := by
      have hstatus : (following.source.status? id).isSome = true := hstatus
      rw [StatusSource.ids, Table.mem_keys_iff]
      simpa [StatusSource.status?] using hstatus
    have honly : following.source.ids = [⟨"m1"⟩] := by decide +kernel
    rw [honly, List.mem_singleton] at hheld
    subst hheld
    decide +kernel

end Service

end Redelivery
