import Redelivery.Proofs.Resend.Delivery
import Redelivery.Proofs.Resend.Sweeps

/-!
# Sweeps send what is stranded

Whatever happens while a sweep is under way, it sends only messages that are
stranded when it comes to them, each once and by id, and says how many.  If
nothing else happens, these are all the messages that were stranded when it
began.
-/

namespace Redelivery.Service

variable {s t : Service} {e : Event} {id : MessageId} {r : Record} {task : Nat}
  {candidates : List MessageId} {resent : Nat} {watching : Option NodeCursor}
  {owed : List Record} {events first rest : List Event} {saved : Bool}
  {a : Attempt}

/-! ## Candidates -/

/-- The candidates stand in ascending order. -/
theorem ascending_candidates (hkeyed : s.ledger.Keyed) :
    s.candidates.Pairwise fun a b => compare a b = .lt := by
  unfold candidates
  split
  next => exact .nil
  next =>
    rw [hkeyed.listing_eq, List.pairwise_map]
    refine List.Pairwise.filter _ (List.pairwise_map.2 ?_)
    refine s.ledger.records.ascending.imp_of_mem fun {a b} ha hb hlt => ?_
    rwa [hkeyed.id_of_mem ha, hkeyed.id_of_mem hb]

theorem mem_candidates_iff (hkeyed : s.ledger.Keyed)
    (hrunning : s.shutDown = false) :
    id ∈ s.candidates ↔ ∃ r, s.record? id = some r ∧
      r.status.needsSweep (s.scheduler.isArmed id) = true := by
  simp only [candidates, hrunning, Bool.false_eq_true, if_false, List.mem_map,
    List.mem_filter, Bool.and_eq_true, Bool.not_eq_true', hkeyed.listing_eq,
    Table.mem_values_iff]
  constructor
  · rintro ⟨r, ⟨⟨id', hr⟩, hlive, hneeds⟩, rfl⟩
    have hid : r.id = id' := hkeyed id' r hr
    rw [← hid] at hr
    exact ⟨r, Ledger.find?_eq_some_iff.2 ⟨hr, hlive⟩, hneeds⟩
  · rintro ⟨r, hr, hneeds⟩
    obtain ⟨hget, hlive⟩ := Ledger.find?_eq_some_iff.1 hr
    obtain rfl := hkeyed id r hget
    exact ⟨r, ⟨⟨r.id, hget⟩, hlive, hneeds⟩, rfl⟩

theorem Stranded.needsSweep (hs : s.Stranded id r) :
    r.status.needsSweep (s.scheduler.isArmed id) = true := by
  simp [DeliveryStatus.needsSweep, hs.allowed, hs.unarmed]

theorem Stranded.mem_candidates (hs : s.Stranded id r) (hkeyed : s.ledger.Keyed)
    (hrunning : s.shutDown = false) : id ∈ s.candidates :=
  (mem_candidates_iff hkeyed hrunning).2 ⟨r, hs.live, hs.needsSweep⟩

/-! ## What a sweep changes -/

/-- A step leaves records, timers and subscriptions as they are, and all
counters but that of a message that it claims an attempt for, which it raises by
one if the bound leaves room. -/
structure Restrained (s : Service) (e : Event) : Prop where
  records : ∀ id, (s.step e).ledger.get? id = s.ledger.get? id
  calendar : (s.step e).calendar = s.calendar
  scheduler : (s.step e).scheduler = s.scheduler
  subscriptions : (s.step e).subscriptions = s.subscriptions
  counters : ∀ id, (s.step e).attempts? id = s.attempts? id ∨
    ∃ a n, s.claimed? e = some a ∧ a.id = id ∧
      (s.step e).attempts? id = some n ∧
      (s.config.maxAutoResends.toNat < UInt32.size - 1 →
        n.toNat = s.made id + 1)

theorem restrained_of_ledger (hledger : (s.step e).ledger = s.ledger)
    (hcalendar : (s.step e).calendar = s.calendar)
    (hscheduler : (s.step e).scheduler = s.scheduler)
    (hsubscriptions : (s.step e).subscriptions = s.subscriptions) :
    s.Restrained e :=
  ⟨fun id => by rw [hledger], hcalendar, hscheduler, hsubscriptions,
    fun id => .inl (by rw [attempts?, hledger]; rfl)⟩

/-- A task that neither follows a message nor listens is restrained. -/
theorem restrained_of_routine {worker : Nat} {routine : Routine}
    (htask : s.tasks.get? worker = some routine)
    (hfollow : ∀ cursor, routine ≠ .follow cursor)
    (hlisten : ∀ position, routine ≠ .listen position) (saved : Bool) :
    s.Restrained (.resume worker saved) := by
  have hown {old : Routine} (hold : s.tasks.get? worker = some old) :
      routine = old :=
    Option.some.inj (htask.symm.trans hold)
  have htransition := transition_step s (.resume worker saved)
  generalize hafter : s.step (.resume worker saved) = t at htransition
  have hsame (hledger : t.ledger = s.ledger)
      (hcalendar : t.calendar = s.calendar)
      (hscheduler : t.scheduler = s.scheduler)
      (hsubscriptions : t.subscriptions = s.subscriptions) :
      s.Restrained (.resume worker saved) :=
    restrained_of_ledger (by rw [hafter, hledger]) (by rw [hafter, hcalendar])
      (by rw [hafter, hscheduler]) (by rw [hafter, hsubscriptions])
  cases htransition with
  | idle | refuse => exact hsame rfl rfl rfl rfl
  | chore _ _ old left u _ _ hchore =>
    cases hchore <;> exact hsame (by simp) (by simp) (by simp) (by simp)
  | catchUp _ _ id rest resent watching r claimed hsweep hrunning hclaim =>
    have hclaimed : s.claimed? (.resume worker saved) =
        some ⟨worker, id, .automatic, r,
          nextCount (attemptsMade (s.attempts? id))⟩ := by
      simp only [claimed?, hsweep]
      exact attempt?_of_claim hrunning hclaim worker
    have hclaims := claims_step hclaimed
    obtain ⟨_, _, _, _, rfl⟩ := claim_eq_some_iff.1 hclaim
    refine ⟨?_, by rw [hafter]; simp, by rw [hafter]; simp,
      by rw [hafter]; simp, ?_⟩
    · intro id'
      rw [hclaims.ledger, Ledger.get?_setAttempts]
    · intro id'
      have hafter' := hclaims.attempts?_eq id'
      split at hafter'
      next hid =>
        refine .inr ⟨_, _, hclaimed, hid.symm, hafter', fun hroom => ?_⟩
        rw [hid, hclaims.count]
        exact toNat_nextCount
          (Nat.lt_of_le_of_lt (UInt32.le_iff_toNat_le.1 hclaims.within) hroom)
      next => exact .inl hafter'
  | restate _ _ cursor _ _ _ hhears =>
    exact absurd (hown hhears.following) (hfollow cursor)
  | drop _ _ cursor hold => exact absurd (hown hold) (hfollow cursor)
  | leave _ _ cursor hold => exact absurd (hown hold) (hfollow cursor)
  | hear _ _ position _ _ hold => exact absurd (hown hold) (hlisten position)
  | rescan _ _ position _ _ hold => exact absurd (hown hold) (hlisten position)

/-- So is one that sweeps. -/
theorem Sweeping.restrained
    (hs : s.Sweeping task candidates resent watching owed) (saved : Bool) :
    s.Restrained (.resume task saved) := by
  obtain ⟨_, routine, htask, hsweep, _⟩ := hs
  refine restrained_of_routine htask ?_ ?_ saved
  all_goals
    rintro _ rfl
    cases hsweep

/-! ## Whatever else happens -/

theorem underWay_append {second : List Event} :
    s.UnderWay task (first ++ second) ↔
      s.UnderWay task first ∧ (s.run first).UnderWay task second := by
  induction first generalizing s with
  | nil => simp [UnderWay]
  | cons e rest ih => simp [UnderWay, ih, and_assoc]

/-- As long as it is under way, its task sweeps. -/
theorem Sweeping.sweeping_run
    (hs : s.Sweeping task candidates resent watching owed)
    (hunderWay : s.UnderWay task events)
    (hsweep : ((s.run events).sweep? task).isSome = true) :
    ∃ rest left,
      ((s.claimsOf task events).map Attempt.id ++ rest).Sublist candidates ∧
      (s.run events).Sweeping task rest
        (resent + (s.claimsOf task events).length) watching
        left := by
  cases hs.run hunderWay with
  | on rest left hids _ hafter => exact ⟨rest, left, hids, hafter⟩
  | finished _ _ hafter => simp [sweep?, hafter] at hsweep
  | ended _ _ _ hafter => simp [sweep?, hafter] at hsweep

/-- What a sweep claims is stranded at that moment. -/
theorem Sweeping.stranded_of_claimed
    (hs : s.Sweeping task candidates resent watching owed)
    (hmem : a ∈ s.claimsOf task [e]) :
    s.claimed? e = some a ∧ a.task = task ∧ s.Stranded a.id a.record := by
  have hclaimed : s.claimed? e = some a ∧ a.task = task := by
    simpa [claimsOf, Option.filter_eq_some_iff] using hmem
  refine ⟨hclaimed.1, hclaimed.2, ?_⟩
  cases hs.turn e with
  | claim a' hsome _ _ hstranded =>
    cases hclaimed.1.symm.trans hsome
    exact hstranded
  | stay hclaims => simp [hclaims] at hmem
  | ended _ hclaims => simp [hclaims] at hmem
  | send r hclaims => simp [hclaims] at hmem
  | passOver id _ hclaims => simp [hclaims] at hmem
  | finish hclaims => simp [hclaims] at hmem

theorem exists_of_mem_claimsOf (hmem : a ∈ s.claimsOf task events) :
    ∃ first e rest, events = first ++ e :: rest ∧
      a ∈ (s.run first).claimsOf task [e] := by
  induction events generalizing s with
  | nil => simp [claimsOf] at hmem
  | cons e rest ih =>
    rw [claimsOf_cons, List.mem_append] at hmem
    rcases hmem with hhere | hlater
    · exact ⟨[], e, rest, rfl, hhere⟩
    · obtain ⟨first, e', rest', hsplit, hthere⟩ := ih hlater
      exact ⟨e :: first, e', rest', by rw [hsplit]; rfl, hthere⟩

theorem keyed_run (hkeyed : s.ledger.Keyed) (events : List Event) :
    (s.run events).ledger.Keyed :=
  run_induction (P := fun t => t.ledger.Keyed) hkeyed
    fun _ _ _ _ htransition ht => htransition.keyed ht

/-- What a sweep does while it is under way, whatever else happens.  It hands
messages over by ascending id, so none twice, and each was stranded when an
attempt was claimed for it.  The attempts that it claims are for these messages
and for what it still has to hand over; nothing else is changed by its own
steps.  If it comes to its end, all that it has claimed is handed over, and it
returns the number of that. -/
structure SweepsSoundly (t : Service) (task : Nat)
    (watching : Option NodeCursor) (events : List Event) : Prop where
  ascending : ((t.handed task events).map fun d => d.record.id).Pairwise
    fun a b => compare a b = .lt
  stranded : ∀ d ∈ t.handed task events, ∃ first e rest a,
    events = first ++ e :: rest ∧
    (t.run first).claimed? e = some a ∧ a.task = task ∧ a.id = d.record.id ∧
      (t.run first).Stranded d.record.id d.record
  claimed : ∃ left, (t.claimsOf task events).map Attempt.record =
    (t.handed task events).map Dispatch.record ++ left
  restrained : ∀ first saved rest,
    events = first ++ .resume task saved :: rest →
    (t.run first).Restrained (.resume task saved)
  returned : (t.run events).sweep? task = none →
    (t.run events).tasks.get? task ≠ none →
    (t.run events).tasks.get? task =
      some (.afterSweep (t.handed task events).length watching) ∧
      (t.claimsOf task events).map Attempt.record =
        (t.handed task events).map Dispatch.record

theorem Swept.ids {claims : List Attempt} {sent : List Dispatch}
    (hswept : Swept task candidates resent watching owed claims sent t) :
    (claims.map Attempt.id).Sublist candidates := by
  cases hswept with
  | on rest left hids => exact (List.sublist_append_left _ rest).trans hids
  | finished hids => exact hids
  | ended left hids => exact hids

theorem Swept.claimed {claims : List Attempt} {sent : List Dispatch}
    (hswept : Swept task candidates resent watching owed claims sent t) :
    ∃ left, owed ++ claims.map Attempt.record =
      sent.map Dispatch.record ++ left := by
  cases hswept with
  | on rest left _ howed => exact ⟨left, howed⟩
  | finished _ howed => exact ⟨[], by rw [howed, List.append_nil]⟩
  | ended left _ howed => exact ⟨left, howed⟩

/-- Every claim of a sweep is made for a stranded message, and for a record
under its own id. -/
theorem Sweeping.stranded_claims
    (hs : s.Sweeping task candidates resent watching owed)
    (hkeyed : s.ledger.Keyed) (hunderWay : s.UnderWay task events)
    (hmem : a ∈ s.claimsOf task events) :
    a.record.id = a.id ∧ ∃ first e rest, events = first ++ e :: rest ∧
      (s.run first).claimed? e = some a ∧ a.task = task ∧
      (s.run first).Stranded a.id a.record := by
  obtain ⟨first, e, rest, rfl, hhere⟩ := exists_of_mem_claimsOf hmem
  obtain ⟨hfirst, hsweep, _⟩ := underWay_append.1 hunderWay
  obtain ⟨_, _, _, hsweeping⟩ := hs.sweeping_run hfirst hsweep
  obtain ⟨hclaimed, htask, hstranded⟩ := hsweeping.stranded_of_claimed hhere
  have hlive := (Ledger.find?_eq_some_iff.1 hstranded.live).1
  exact ⟨keyed_run hkeyed first _ _ hlive, first, e, rest, rfl, hclaimed, htask,
    hstranded⟩

theorem Sweeping.ids_of_claims
    (hs : s.Sweeping task candidates resent watching owed)
    (hkeyed : s.ledger.Keyed) (hunderWay : s.UnderWay task events) :
    (s.claimsOf task events).map Attempt.id =
      ((s.claimsOf task events).map Attempt.record).map Record.id := by
  rw [List.map_map]
  exact List.map_congr_left fun a ha =>
    (hs.stranded_claims hkeyed hunderWay ha).1.symm

/-- A sweep that has just begun goes soundly. -/
theorem Sweeping.soundly (hs : s.Sweeping task candidates 0 watching [])
    (hascending : candidates.Pairwise fun a b => compare a b = .lt)
    (hkeyed : s.ledger.Keyed) (hunderWay : s.UnderWay task events) :
    s.SweepsSoundly task watching events := by
  have hswept := hs.run hunderWay
  obtain ⟨left, hclaims⟩ := hswept.claimed
  rw [List.nil_append] at hclaims
  have hsent : ((s.handed task events).map fun d => d.record.id) <+:
      (s.claimsOf task events).map Attempt.id := by
    refine ⟨left.map Record.id, ?_⟩
    rw [hs.ids_of_claims hkeyed hunderWay, hclaims, List.map_append,
      List.map_map]
    rfl
  refine ⟨?_, ?_, ⟨left, hclaims⟩, ?_, ?_⟩
  · exact hascending.sublist (hsent.sublist.trans hswept.ids)
  · intro d hd
    have hmem : d.record ∈ (s.claimsOf task events).map Attempt.record := by
      rw [hclaims]
      exact List.mem_append_left _ (List.mem_map_of_mem hd)
    obtain ⟨a, ha, hrecord⟩ := List.mem_map.1 hmem
    obtain ⟨hid, first, e, rest, hsplit, hclaimed, htask, hat⟩ :=
      hs.stranded_claims hkeyed hunderWay ha
    rw [← hrecord, hid]
    exact ⟨first, e, rest, a, hsplit, hclaimed, htask, rfl, hat⟩
  · rintro first saved rest rfl
    obtain ⟨hfirst, hsweep, _⟩ := underWay_append.1 hunderWay
    obtain ⟨candidates', left', _, hsweeping⟩ := hs.sweeping_run hfirst hsweep
    exact hsweeping.restrained saved
  · intro hover hstays
    cases hswept with
    | on _ _ _ _ hafter => simp [hafter.sweep?_eq] at hover
    | ended _ _ _ hafter => exact absurd hafter hstays
    | finished _ howed hafter =>
      rw [List.nil_append] at howed
      have hlength := congrArg List.length howed
      rw [List.length_map, List.length_map] at hlength
      rw [hlength, Nat.zero_add] at hafter
      exact ⟨hafter, howed⟩

/-! ## Where nothing else happens -/

/-- A sweep goes on, and nothing else happens but that other tasks save. -/
def Undisturbed (s : Service) (task : Nat) : List Event → Prop
  | [] => True
  | e :: rest =>
    ((∃ saved, e = .resume task saved) ∨ s.Helps task e) ∧
      (s.step e).Undisturbed task rest

theorem undisturbed_append {second : List Event} :
    s.Undisturbed task (first ++ second) ↔
      s.Undisturbed task first ∧ (s.run first).Undisturbed task second := by
  induction first generalizing s with
  | nil => simp [Undisturbed]
  | cons e rest ih => simp [Undisturbed, ih, and_assoc]

theorem undisturbed_of_advances {pieces : List Event}
    (hadvances : s.Advances task pieces) :
    s.Undisturbed task pieces := by
  induction pieces generalizing s with
  | nil => trivial
  | cons e rest ih => exact ⟨.inr hadvances.1, ih hadvances.2⟩

/-- Somebody who saves or hands a message over touches no sweep. -/
theorem Helps.sweep?_step (hhelps : s.Helps task e) (task' : Nat) :
    (s.step e).sweep? task' = s.sweep? task' := by
  have hleft {worker : Nat} {old left : Routine} {u : Service}
      (hu : u.tasks = s.tasks) (htask : s.tasks.get? worker = some old)
      (hsame : left.sweep? = old.sweep?) :
      (u.setRoutine worker left).sweep? task' = s.sweep? task' := by
    rw [sweep?, bind_tasks_setRoutine rfl, sweep?, hu]
    split
    next hsame' => rw [hsame', htask, Option.bind_some, hsame]
    next => rfl
  cases hhelps with
  | save worker saved next htask =>
    cases hwriting : s.isWriting with
    | true => rw [step_of_idle htask (by simp [isReady, hwriting])]
    | false =>
      rw [step_of_saves htask hwriting]
      exact hleft rfl htask rfl
  | write worker saved copy next htask =>
    cases saved with
    | true =>
      rw [step_of_writes htask]
      exact hleft rfl htask rfl
    | false =>
      rw [step_of_loses htask]
      exact hleft rfl htask rfl
  | send saved r next htask =>
    rw [step_of_sends htask]
    exact hleft rfl htask rfl

theorem Helps.restrained (hhelps : s.Helps task e) : s.Restrained e := by
  cases hhelps with
  | save worker saved next htask =>
    exact restrained_of_routine htask nofun nofun saved
  | write worker saved copy next htask =>
    exact restrained_of_routine htask nofun nofun saved
  | send saved r next htask =>
    exact restrained_of_routine htask nofun nofun saved

theorem Helps.claimed? (hhelps : s.Helps task e) : s.claimed? e = none := by
  cases hhelps with
  | save worker saved next htask => simp [Service.claimed?, htask]
  | write worker saved copy next htask => simp [Service.claimed?, htask]
  | send saved r next htask => simp [Service.claimed?, htask]

theorem Helps.eq_resume (hhelps : s.Helps task e) :
    ∃ worker saved, e = .resume worker saved := by
  cases hhelps with
  | save worker saved => exact ⟨worker, saved, rfl⟩
  | write worker saved => exact ⟨worker, saved, rfl⟩
  | send saved => exact ⟨task, saved, rfl⟩

/-- A restrained step leaves a message stranded or not, unless it claims from
its counter. -/
theorem Restrained.stranded_iff (hs : s.Restrained e)
    (hquiet : ∀ a, s.claimed? e = some a → a.id ≠ id) :
    (s.step e).Stranded id r ↔ s.Stranded id r := by
  have hconfig := (transition_step s e).config
  have hrecord : (s.step e).record? id = s.record? id := by
    rw [record?, Ledger.find?, hs.records, hs.calendar, record?, Ledger.find?]
  have hmade : (s.step e).made id = s.made id := by
    rcases hs.counters id with hsame | ⟨a, _, hclaimed, hid, _⟩
    · rw [made, hsame, made]
    · exact absurd hid (hquiet a hclaimed)
  constructor
  · rintro ⟨hlive, hallowed, hunarmed, hwithin⟩
    exact ⟨by rwa [hrecord] at hlive, hallowed,
      by rwa [hs.scheduler] at hunarmed, by rwa [hmade, hconfig] at hwithin⟩
  · rintro ⟨hlive, hallowed, hunarmed, hwithin⟩
    exact ⟨by rwa [hrecord], hallowed, by rwa [hs.scheduler],
      by rwa [hmade, hconfig]⟩

/-- A piece of an undisturbed sweep, with what it leaves as it is. -/
theorem Sweeping.piece (hs : s.Sweeping task candidates resent watching owed)
    (hpiece : (∃ saved, e = .resume task saved) ∨ s.Helps task e) :
    (∃ worker saved, e = .resume worker saved) ∧ s.Restrained e ∧
      (s.step e).tasks.get? task ≠ none ∧
      (s.claimsOf task [e] = [] → s.claimed? e = none) := by
  rcases hpiece with ⟨saved, rfl⟩ | hhelps
  · refine ⟨⟨task, saved, rfl⟩, hs.restrained saved, ?_, ?_⟩
    · intro hgone
      cases hs.turn (.resume task saved) with
      | ended hother => exact hother saved rfl
      | finish _ _ hafter => cases hgone.symm.trans hafter
      | stay _ _ hafter | send _ _ _ hafter | passOver _ _ _ _ hafter
      | claim _ _ _ _ _ hafter =>
        simpa [sweep?, hgone] using hafter.sweep?_eq
    · intro hclaims
      rwa [claimsOf_resume, Option.toList_eq_nil_iff] at hclaims
  · refine ⟨hhelps.eq_resume, hhelps.restrained, ?_, fun _ => hhelps.claimed?⟩
    intro hgone
    have hsame := hhelps.sweep?_step task
    rw [hs.sweep?_eq] at hsame
    simp [sweep?, hgone] at hsame

/-- An undisturbed sweep comes to its end. -/
theorem Sweeping.stays (hs : s.Sweeping task candidates resent watching owed)
    (hunderWay : s.UnderWay task events)
    (hundisturbed : s.Undisturbed task events) :
    (s.run events).tasks.get? task ≠ none := by
  rcases List.eq_nil_or_concat events with rfl | ⟨first, e, rfl⟩
  · obtain ⟨_, routine, htask, _⟩ := hs
    rw [run_nil, htask]
    exact nofun
  · rw [List.concat_eq_append] at hunderWay hundisturbed ⊢
    obtain ⟨hfirst, hsweep, _⟩ := underWay_append.1 hunderWay
    obtain ⟨_, hpiece, _⟩ := undisturbed_append.1 hundisturbed
    obtain ⟨_, _, _, hsweeping⟩ := hs.sweeping_run hfirst hsweep
    rw [run_concat]
    exact (hsweeping.piece hpiece).2.2.1

/-- If nothing else happens until it is over, a sweep claims attempts for just
those of its candidates that are stranded: each of them stays so until the sweep
comes to it. -/
theorem Sweeping.claimed_iff
    (hs : s.Sweeping task candidates resent watching owed)
    (hnodup : candidates.Nodup) (hrunning : s.shutDown = false)
    (hunderWay : s.UnderWay task events)
    (hundisturbed : s.Undisturbed task events)
    (hover : (s.run events).sweep? task = none) (id : MessageId) :
    id ∈ (s.claimsOf task events).map Attempt.id ↔
      id ∈ candidates ∧ ∃ r, s.Stranded id r := by
  induction events generalizing s candidates resent owed with
  | nil =>
    rw [run_nil, hs.sweep?_eq] at hover
    cases hover
  | cons e rest ih =>
    obtain ⟨hpiece, hrest⟩ := hundisturbed
    obtain ⟨⟨worker, saved, rfl⟩, hrestrained, hstays, hnone⟩ := hs.piece hpiece
    have hrunning' : (s.step (.resume worker saved)).shutDown = false := by
      rcases (transition_step s (.resume worker saved)).frames.shutDown
        with hsame | hshut
      · rw [hsame, hrunning]
      · cases hshut
    have hlater {candidates' : List MessageId} {resent' : Nat}
        {owed' : List Record}
        (hafter : (s.step (.resume worker saved)).Sweeping task candidates'
          resent' watching owed') (hnodup' : candidates'.Nodup) (hquiet :
            ∀ a, s.claimed? (.resume worker saved) = some a → a.id ≠ id) :
        id ∈ ((s.step (.resume worker saved)).claimsOf task rest).map
          Attempt.id ↔
          id ∈ candidates' ∧ ∃ r, s.Stranded id r := by
      rw [ih hafter hnodup' hrunning' hunderWay.2 hrest hover]
      simp only [hrestrained.stranded_iff hquiet]
    rw [claimsOf_cons, List.map_append, List.mem_append]
    cases hs.turn (.resume worker saved) with
    | ended _ _ _ hafter => exact absurd hafter hstays
    | stay hclaims _ hafter | send _ hclaims _ hafter =>
      rw [hlater hafter hnodup (by simp [hnone hclaims]), hclaims]
      simp
    | passOver id' hrefused hclaims _ hafter =>
      rw [hlater hafter hnodup.of_cons (by simp [hnone hclaims]), hclaims,
        List.mem_cons]
      constructor
      · rintro (hnothing | ⟨hid, hstranded⟩)
        · cases hnothing
        · exact ⟨.inr hid, hstranded⟩
      · rintro ⟨rfl | hid, r, hstranded⟩
        · rcases hrefused with hshut | hnot
          · cases hrunning.symm.trans hshut
          · exact absurd hstranded (hnot r)
        · exact .inr ⟨hid, r, hstranded⟩
    | claim a hclaimed hclaims _ hstranded hafter =>
      rw [hclaims, List.mem_cons]
      by_cases hid : id = a.id
      · subst hid
        exact ⟨fun _ => ⟨.inl rfl, _, hstranded⟩, fun _ => .inl (by simp)⟩
      · rw [hlater hafter hnodup.of_cons ?_]
        · simp [hid]
        · rintro a' hclaimed' rfl
          cases hclaimed.symm.trans hclaimed'
          exact hid rfl
    | finish hclaims _ hafter =>
      cases rest with
      | nil =>
        rw [hclaims]
        simp [claimsOf]
      | cons _ _ => simp [UnderWay, sweep?, hafter] at hunderWay

/-! ## Sweeps come to their end -/

theorem sweep?_of_advances {pieces : List Event}
    (hadvances : s.Advances task pieces) :
    (s.run pieces).sweep? task = s.sweep? task := by
  induction pieces generalizing s with
  | nil => rfl
  | cons e rest ih =>
    rw [run_cons, ih hadvances.2, hadvances.1.sweep?_step task]

theorem underWay_of_advances {pieces : List Event}
    (hadvances : s.Advances task pieces)
    (hsweep : (s.sweep? task).isSome = true) : s.UnderWay task pieces := by
  induction pieces generalizing s with
  | nil => trivial
  | cons e rest ih =>
    refine ⟨hsweep, ih hadvances.2 ?_⟩
    rwa [hadvances.1.sweep?_step task]

/-- A sweep may save and hand over what it has to, and then look for its next
candidate. -/
theorem Sweeping.seeks (hs : s.Sweeping task candidates resent watching owed)
    (hsaving : s.Saving) :
    ∃ pieces, s.UnderWay task pieces ∧ s.Undisturbed task pieces ∧
      (s.run pieces).tasks.get? task =
        some (.sweep candidates resent watching) := by
  obtain ⟨pieces, hadvances, hdone⟩ := hsaving.done task
  have hsweep :
      (s.run pieces).sweep? task = some (candidates, resent, watching) := by
    rw [sweep?_of_advances hadvances, hs.sweep?_eq]
  refine ⟨pieces, underWay_of_advances hadvances (by rw [hs.sweep?_eq]; rfl),
    undisturbed_of_advances hadvances, ?_⟩
  obtain ⟨routine, htask, hroutine⟩ := Option.bind_eq_some_iff.1 hsweep
  have hover := hdone routine htask
  rw [htask]
  cases routine with
  | sweep => simpa using hroutine
  | save | write | send => cases hover
  | _ => cases hroutine

/-- A sweep goes on from one candidate to the next. -/
theorem sweeping_of_candidate {rest : List MessageId}
    (hbegun : task < s.nextTask)
    (htask : s.tasks.get? task = some (.sweep (id :: rest) resent watching))
    (saved : Bool) :
    ∃ resent owed, (s.step (.resume task saved)).Sweeping task rest resent
      watching owed := by
  have hstep : s.step (.resume task saved) =
      (s.trySweep id rest resent watching).1.setRoutine task
        (s.trySweep id rest resent watching).2 := step_of_ready htask rfl
  rw [hstep, trySweep]
  split
  next => exact ⟨resent, [], sweeping_of_setRoutine hbegun rfl rfl⟩
  next r claimed hclaim =>
    split at hclaim
    next => cases hclaim
    next =>
      obtain ⟨_, _, _, _, rfl⟩ := claim_eq_some_iff.1 hclaim
      exact ⟨resent + 1, [r], sweeping_of_setRoutine hbegun rfl rfl⟩

/-- A sweep comes to its end if nothing else happens, whatever is being
saved. -/
theorem Sweeping.completes
    (hs : s.Sweeping task candidates resent watching owed)
    (hsaving : s.Saving) :
    ∃ events n, s.UnderWay task events ∧ s.Undisturbed task events ∧
      (s.run events).tasks.get? task = some (.afterSweep n watching) := by
  induction candidates generalizing s resent owed with
  | nil =>
    obtain ⟨pieces, hunderWay, hundisturbed, htask⟩ := hs.seeks hsaving
    have hfinish : ((s.run pieces).step (.resume task true)).tasks.get? task =
        some (.afterSweep resent watching) := by
      have hstep : (s.run pieces).step (.resume task true) =
          (s.run pieces).setRoutine task (.afterSweep resent watching) :=
        step_of_ready htask rfl
      rw [hstep, tasks_setRoutine, if_pos rfl,
        if_neg (Routine.afterSweep_ne_stop _ _)]
    refine ⟨pieces ++ [.resume task true], resent, ?_, ?_, by rwa [run_concat]⟩
    · exact underWay_append.2 ⟨hunderWay, by simp [sweep?, htask], trivial⟩
    · exact undisturbed_append.2 ⟨hundisturbed, .inl ⟨true, rfl⟩, trivial⟩
  | cons id rest ih =>
    obtain ⟨pieces, hunderWay, hundisturbed, htask⟩ := hs.seeks hsaving
    have hseeks : ((s.run pieces).sweep? task).isSome = true := by
      simp [sweep?, htask]
    obtain ⟨_, _, _, hbetween⟩ := hs.sweeping_run hunderWay hseeks
    obtain ⟨resent', owed', hnext⟩ :=
      sweeping_of_candidate hbetween.begun htask true
    have hsaving' := saving_run hsaving (pieces ++ [.resume task true])
    rw [run_concat] at hsaving'
    obtain ⟨events, n, hunderWay', hundisturbed', hover⟩ := ih hnext hsaving'
    refine ⟨pieces ++ .resume task true :: events, n, ?_, ?_,
      by rwa [run_append, run_cons]⟩
    · exact underWay_append.2 ⟨hunderWay, hseeks, hunderWay'⟩
    · exact undisturbed_append.2 ⟨hundisturbed, .inl ⟨true, rfl⟩, hundisturbed'⟩

/-! ## Sweeps that somebody asks for -/

/-- The task of a sweep that somebody asks for sweeps until it has come to its
answer. -/
theorem Sweeping.answer_or_sweeping
    (hs : s.Sweeping task candidates resent none owed) (hown : s.Own task)
    (events : List Event) :
    (∃ n, (s.run events).answer? task = some n) ∨
      ∃ candidates resent owed,
        (s.run events).Sweeping task candidates resent none owed := by
  induction events generalizing s candidates resent owed with
  | nil => exact .inr ⟨candidates, resent, owed, hs⟩
  | cons e rest ih =>
    have hown' := hown.step e
    cases hs.turn e with
    | stay _ _ hafter | send _ _ _ hafter | passOver _ _ _ _ hafter
    | claim _ _ _ _ _ hafter =>
      exact ih hafter hown'
    | finish _ _ hafter => exact .inl ⟨_, hown'.answered hafter rest⟩
    | ended hother _ _ hafter =>
      obtain ⟨_, routine, htask, _⟩ := hs
      rw [hown.tasks_step hother, htask] at hafter
      cases hafter

theorem handed_append (s : Service) (task : Nat) (first second : List Event) :
    s.handed task (first ++ second) =
      s.handed task first ++ (s.run first).handed task second := by
  induction first generalizing s with
  | nil => rfl
  | cons e rest ih =>
    rw [List.cons_append, handed_cons, handed_cons, ih,
      List.append_assoc, run_cons]

/-- Some events are those up to the end of a sweep, and those after it. -/
theorem exists_underWay (s : Service) (task : Nat) (events : List Event) :
    ∃ first second, events = first ++ second ∧ s.UnderWay task first ∧
      (second = [] ∨ (s.run first).sweep? task = none) := by
  induction events generalizing s with
  | nil => exact ⟨[], [], rfl, trivial, .inl rfl⟩
  | cons e rest ih =>
    cases hsweep : s.sweep? task with
    | none => exact ⟨[], e :: rest, rfl, trivial, .inr hsweep⟩
    | some swept =>
      obtain ⟨first, second, rfl, hunderWay, hend⟩ := ih (s.step e)
      exact ⟨e :: first, second, rfl, ⟨by rw [hsweep]; rfl, hunderWay⟩, hend⟩

/-- A task that has come to its answer hands nothing over any more. -/
theorem handed_of_answer (hown : s.Own task) {n : Nat}
    (htask : s.tasks.get? task = some (.answer n)) (events : List Event) :
    s.handed task events = [] := by
  have hanswering : s.Answering task n [] := ⟨hown, .answer n, htask, rfl, rfl⟩
  obtain ⟨left, howed, _⟩ := hanswering.run events
  exact List.map_eq_nil_iff.1 (List.append_eq_nil_iff.1 howed.symm).1

theorem sweep?_of_answer {n : Nat} (hanswer : s.answer? task = some n) :
    s.sweep? task = none ∧ s.tasks.get? task ≠ none := by
  obtain ⟨routine, htask, hroutine⟩ := Option.bind_eq_some_iff.1 hanswer
  refine ⟨?_, by rw [htask]; exact nofun⟩
  cases routine with
  | answer => simp [sweep?, htask]
  | _ => cases hroutine

/-- The answer of a sweep that somebody asked for is the number of messages that
it has handed over. -/
theorem Sweeping.answer?_eq (hs : s.Sweeping task candidates 0 none [])
    (hascending : candidates.Pairwise fun a b => compare a b = .lt)
    (hkeyed : s.ledger.Keyed) (hown : s.Own task) {n : Nat}
    (hanswer : (s.run events).answer? task = some n) :
    n = (s.handed task events).length := by
  obtain ⟨first, second, rfl, hunderWay, hend⟩ := exists_underWay s task events
  have hover : (s.run first).sweep? task = none := by
    rcases hend with rfl | hover
    · rw [List.append_nil] at hanswer
      exact (sweep?_of_answer hanswer).1
    · exact hover
  have hstays : (s.run first).tasks.get? task ≠ none := by
    rcases hs.answer_or_sweeping hown first with ⟨m, hm⟩ | ⟨_, _, _, hsweeping⟩
    · exact (sweep?_of_answer hm).2
    · simp [hsweeping.sweep?_eq] at hover
  have hreturned :=
    ((hs.soundly hascending hkeyed hunderWay).returned hover hstays).1
  have hafter := (hown.run first).answered hreturned second
  rw [run_append, hafter] at hanswer
  rw [handed_append, handed_of_answer (hown.run first) hreturned,
    List.append_nil]
  exact (Option.some.inj hanswer).symm

/-! ## Every sweep -/

/-- An event begins a sweep: somebody asks for one, or a node that has come up
is waited for long enough.  A task carries it out, which goes on to watch the
node if there is one. -/
inductive BeginsSweep (s : Service) : Event → Nat → Option NodeCursor → Prop
  | asked : BeginsSweep s .sweep s.nextTask none
  | due (task : Nat) (saved : Bool) (cursor : NodeCursor) (due : Nat)
      (htask : s.tasks.get? task = some (.debounce cursor due))
      (hdue : due ≤ s.clock) :
      BeginsSweep s (.resume task saved) task (some cursor)

/-- What is known of a sweep that an event begins: its beginning changes
nothing, it goes soundly, it can come to its end, and if nothing else happens
until then, it hands over just what was stranded when it began.  Somebody who
asked for it may always come to an answer, which is the number of messages that
it has handed over. -/
structure SweepsWell (s : Service) (e : Event) (task : Nat)
    (watching : Option NodeCursor) :
    Prop where
  restrained : s.Restrained e
  soundly : ∀ events, (s.step e).UnderWay task events →
    (s.step e).SweepsSoundly task watching events
  completes : ∃ events, (s.step e).UnderWay task events ∧
    (s.step e).Undisturbed task events ∧
    ((s.step e).run events).sweep? task = none
  exactly : ∀ events, (s.step e).UnderWay task events →
    (s.step e).Undisturbed task events →
    ((s.step e).run events).sweep? task = none →
      ∀ id, id ∈ ((s.step e).handed task events).map (fun d => d.record.id) ↔
        ∃ r, s.Stranded id r
  answered : e = .sweep → ∀ events, ∃ later n,
    (s.run (e :: (events ++ later))).answer? task = some n
  answers : e = .sweep → ∀ events n,
    (s.run (e :: events)).answer? task = some n →
    n = ((s.step e).handed task events).length

variable {start : Service} {before : List Event}

/-- Whatever begins a sweep, its task comes to the candidates of that moment one
after the other, and nothing else is changed. -/
theorem BeginsSweep.sweeping (hbegins : s.BeginsSweep e task watching)
    (hs : s.Separate) :
    (s.step e).Sweeping task s.candidates 0 watching [] ∧ s.Restrained e ∧
      s.claimed? e = none ∧ (s.step e).ledger = s.ledger ∧
      (s.step e).shutDown = s.shutDown := by
  cases hbegins with
  | asked =>
    refine ⟨⟨Nat.lt_succ_self _, .sweep s.candidates 0 none, ?_, rfl, rfl⟩,
      restrained_of_ledger rfl rfl rfl rfl, rfl, rfl, rfl⟩
    exact (tasks_spawn s _ _).trans (if_pos rfl)
  | due _ saved cursor due htask hdue =>
    have hstep : s.step (.resume task saved) =
        s.setRoutine task (.sweep s.candidates 0 (some cursor)) :=
      step_of_ready htask (by simpa [isReady] using hdue)
    refine ⟨?_, ?_,
      by simp [claimed?, htask], by rw [hstep]; simp, by rw [hstep]; simp⟩
    · rw [hstep]
      exact sweeping_of_setRoutine (hs.lt_nextTask htask) rfl rfl
    · apply restrained_of_ledger
      all_goals
        rw [hstep]
        simp

theorem nodup_of_ascending {ids : List MessageId}
    (hascending : ids.Pairwise fun a b => compare a b = .lt) : ids.Nodup := by
  refine hascending.imp fun {a b} hlt => ?_
  rintro rfl
  simp at hlt

/-- If nothing else happens until it is over, a sweep hands over those of its
candidates that are stranded. -/
theorem Sweeping.handed_iff (hs : s.Sweeping task candidates 0 watching [])
    (hascending : candidates.Pairwise fun a b => compare a b = .lt)
    (hkeyed : s.ledger.Keyed) (hrunning : s.shutDown = false)
    (hunderWay : s.UnderWay task events)
    (hundisturbed : s.Undisturbed task events)
    (hover : (s.run events).sweep? task = none) :
    id ∈ (s.handed task events).map (fun d => d.record.id) ↔
      id ∈ candidates ∧ ∃ r, s.Stranded id r := by
  have hsound := hs.soundly hascending hkeyed hunderWay
  have hclaims := (hsound.returned hover (hs.stays hunderWay hundisturbed)).2
  have hids : (s.handed task events).map (fun d => d.record.id) =
      (s.claimsOf task events).map Attempt.id := by
    rw [hs.ids_of_claims hkeyed hunderWay, hclaims, List.map_map]
    rfl
  rw [hids]
  exact hs.claimed_iff (nodup_of_ascending hascending) hrunning hunderWay
    hundisturbed hover id

/-- Whatever happens while it is under way, a sweep hands over only messages
that are stranded when it comes to them, each once and by ascending id, changes
nothing but their counters, and returns how many they were; if nothing else
happens, they are all that were stranded when it began. -/
theorem swept_of_keyed (hstart : start.Fresh)
    (hkeyed : (start.run before).ledger.Keyed)
    (hrunning : (start.run before).shutDown = false)
    (hbegins : (start.run before).BeginsSweep e task watching) :
    (start.run before).SweepsWell e task watching := by
  have hseparate := separate_run hstart before
  have hsaving := saving_run hstart.saving (before ++ [e])
  rw [run_concat] at hsaving
  generalize start.run before = s at hkeyed hrunning hbegins hseparate hsaving ⊢
  obtain ⟨hsweeping, hrestrained, hnone, hledger, hshut⟩ :=
    hbegins.sweeping hseparate
  have hascending := ascending_candidates hkeyed
  have hkeyed' : (s.step e).ledger.Keyed := by rwa [hledger]
  refine ⟨hrestrained, fun events hunderWay =>
    hsweeping.soundly hascending hkeyed' hunderWay, ?_, ?_, ?_, ?_⟩
  · obtain ⟨events, n, hunderWay, hundisturbed, hover⟩ :=
      hsweeping.completes hsaving
    exact ⟨events, hunderWay, hundisturbed, by simp [sweep?, hover]⟩
  · intro events hunderWay hundisturbed hover id
    rw [hsweeping.handed_iff hascending hkeyed'
      (hshut.trans hrunning) hunderWay hundisturbed hover]
    have hquiet (a : Attempt) (hclaimed : s.claimed? e = some a) :
        a.id ≠ id := by
      rw [hnone] at hclaimed
      cases hclaimed
    simp only [hrestrained.stranded_iff hquiet]
    constructor
    · exact fun hboth => hboth.2
    · rintro ⟨r, hstranded⟩
      exact ⟨hstranded.mem_candidates hkeyed hrunning, r, hstranded⟩
  · rintro rfl events
    cases hbegins
    have hown := hseparate.numbered.own_spawn (.sweep s.candidates 0 none)
    rcases hsweeping.answer_or_sweeping hown events with ⟨n, hanswer⟩ |
      ⟨_, _, _, hstill⟩
    · exact ⟨[], n, by rwa [List.append_nil, run_cons]⟩
    · obtain ⟨later, n, _, _, hover⟩ :=
        hstill.completes (saving_run hsaving events)
      exact ⟨later, n,
        by simp [run_append, answer?, hover, Routine.afterSweep,
          Routine.answer?]⟩
  · rintro rfl events n hanswer
    cases hbegins
    have hown := hseparate.numbered.own_spawn (.sweep s.candidates 0 none)
    exact hsweeping.answer?_eq hascending hkeyed' hown hanswer

def shelved : Service :=
  Service.new .standard (.restored (some
    (((Ledger.empty.upsert (.waiting ⟨"m1"⟩)).upsert (.waiting ⟨"m2"⟩)).upsert
      (.waiting ⟨"m3"⟩))) 5) default 5

/-- One message is acknowledged while another is saved, and the sweep passes it
over. -/
def acknowledgedBetween : List Event :=
  [.resume 0 true, .resume 0 true,
    .register ((Record.waiting ⟨"m2"⟩).withStatus .ackReceived), .resume 0 true,
    .resume 0 true, .resume 0 true, .resume 0 true, .resume 0 true,
    .resume 0 true, .resume 0 true, .resume 0 true]

/-- Of three stranded messages one is acknowledged between: the other two are
sent. -/
theorem swept_of_keyed_acknowledgedBetween :
    shelved.Fresh ∧ (shelved.run []).ledger.Keyed ∧
    (shelved.run []).shutDown = false ∧
    (shelved.run []).BeginsSweep .sweep 0 none ∧
    (shelved.run []).SweepsWell .sweep 0 none ∧
    (shelved.step .sweep).UnderWay 0 acknowledgedBetween ∧
    ((shelved.step .sweep).handed 0 acknowledgedBetween).map
      (fun d => d.record.id) =
      [⟨"m1"⟩, ⟨"m3"⟩] ∧
    (shelved.run (.sweep :: acknowledgedBetween)).answer? 0 = some 2 := by
  have hfresh : shelved.Fresh := fresh_new _ _ _ _ _
  have hkeyed : (shelved.run []).ledger.Keyed := by
    apply Ledger.Keyed.restored
    rintro l ⟨⟩
    exact ((Ledger.keyed_empty.upsert _).upsert _).upsert _
  have hrunning : (shelved.run []).shutDown = false := rfl
  have hbegins : (shelved.run []).BeginsSweep .sweep 0 none := .asked
  have hwell := swept_of_keyed hfresh hkeyed hrunning hbegins
  have hlisting : shelved.ledger.listing = shelved.ledger.records.values :=
    Ledger.Keyed.listing_eq hkeyed
  have hcandidates : shelved.candidates = [⟨"m1"⟩, ⟨"m2"⟩, ⟨"m3"⟩] := by
    unfold candidates
    rw [hlisting]
    decide
  have hbegun : shelved.step .sweep =
      shelved.spawn (.sweep [⟨"m1"⟩, ⟨"m2"⟩, ⟨"m3"⟩] 0 none) := by
    rw [← hcandidates]
    rfl
  refine ⟨hfresh, hkeyed, hrunning, hbegins, hwell, ?_, ?_, ?_⟩
  · rw [hbegun]
    decide
  · rw [hbegun]
    decide
  · rw [run_cons, hbegun]
    decide

end Redelivery.Service
