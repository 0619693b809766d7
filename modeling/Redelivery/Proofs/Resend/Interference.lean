import Redelivery.Proofs.Resend.Pieces

/-!
# Messages do not interfere

An operation on one message changes nothing that belongs to another and sends
nothing for it.  So of two operations on different messages either may be
carried out first: each finds its own message as it would have found it without
the other, and the source and the clocks as well.
-/

namespace Redelivery.Service

/-- What has come of an operation on a message: all that belongs to another one
is as it was, and nothing was sent for another one. -/
structure Confined (s t : Service) (id : MessageId) : Prop where
  others : ∀ id', id ≠ id' → s.Leaves t id'
  sent : ∃ sent, t.outbox = s.outbox ++ sent ∧ ∀ d ∈ sent, d.record.id = id

def PerformsBoth (s : Service) (p : Operation) (a : Option Nat) (q : Operation)
    (b : Option Nat) (u : Service) : Prop :=
  ∃ t, s.Performs p a t ∧ t.Performs q b u

/-- Two services hold the same records, counters, timers and subscriptions, and
have sent the same for each message. -/
structure Tally (s t : Service) : Prop where
  ledger : s.ledger = t.ledger
  delays : ∀ id, s.scheduler.armedDelay? id = t.scheduler.armedDelay? id
  subscribed : ∀ id, s.isSubscribed id = t.isSubscribed id
  sent : ∀ id, (s.outbox.filter fun d => d.record.id = id) =
    t.outbox.filter fun d => d.record.id = id

/-- Operations on different messages do not interfere.  An operation is confined
to its message however far it has come.  Two of them can be carried out one
after the other, and in either order they come to the same and are answered the
same. -/
structure Independent (s : Service) : Prop where
  confined : ∀ p t, s.Offers p → s.Underway p t → s.Confined t p.id
  offers : ∀ p q t, p.id ≠ q.id → s.Offers p → s.Offers q → s.Underway p t →
    t.Offers q
  completes : ∀ p q, ∃ a b t, s.PerformsBoth p a q b t
  commutes : ∀ p q a b a' b' t u, p.id ≠ q.id → s.Offers p → s.Offers q →
    s.PerformsBoth p a q b t → s.PerformsBoth q b' p a' u →
    a = a' ∧ b = b' ∧ t.Tally u

variable {s t u m n : Service} {p q : Operation} {id : MessageId}
  {a b a' : Option Nat}

/-! ## One operation -/

theorem InOrder.underway (hs : s.InOrder) (hunderway : s.Underway p t) :
    t.InOrder := by
  obtain ⟨pieces, _, rfl⟩ := hunderway
  exact (hs.undertake p).run pieces

theorem Underway.stays (hunderway : s.Underway p t) : s.Stays t := by
  obtain ⟨pieces, hadvances, rfl⟩ := hunderway
  exact (s.stays_undertake p).trans (carries_run hadvances).stays

theorem Underway.leaves (hunderway : s.Underway p t) (hs : s.InOrder)
    (hoffers : s.Offers p) (hother : p.id ≠ id) : s.Leaves t id := by
  obtain ⟨pieces, hadvances, rfl⟩ := hunderway
  exact (hs.separate.leaves_undertake hs.keyed hoffers hother).trans
    ((carries_run hadvances).leaves id)

theorem Underway.confined (hunderway : s.Underway p t) (hs : s.InOrder)
    (hoffers : s.Offers p) :
    s.Confined t p.id where
  others := fun _ hother => hunderway.leaves hs hoffers hother
  sent := by
    obtain ⟨pieces, hadvances, rfl⟩ := hunderway
    obtain ⟨sent, houtbox, howed⟩ := (carries_run hadvances).sent
    refine ⟨sent, by rw [houtbox, outbox_undertake hoffers], ?_⟩
    intro d hd
    have hmem := List.mem_append_left
      ((((s.undertake p).run pieces).owes (s.worker p)).map
        (Dispatch.mk ((s.undertake p).run pieces).clock)) hd
    rw [← howed] at hmem
    obtain ⟨r, hr, rfl⟩ := List.mem_map.1 hmem
    exact hs.id_of_owes hoffers r hr

/-- What is offered for one message is offered still when an operation on
another is under way. -/
theorem Leaves.offers (hleaves : s.Leaves t q.id) (hoffers : s.Offers q) :
    t.Offers q := by
  cases q with
  | notice id =>
    obtain ⟨task, cursor, hfollower, htask⟩ := hoffers
    exact ⟨task, cursor, hleaves.subscription.trans hfollower,
      hleaves.waiting task cursor hfollower htask⟩
  | _ => trivial

theorem InOrder.performs (hs : s.InOrder) (p : Operation) :
    ∃ a t, s.Performs p a t := by
  obtain ⟨pieces, hadvances, hdone⟩ := (hs.undertake p).saving.done (s.worker p)
  exact ⟨_, _, ⟨pieces, hadvances, rfl⟩, hdone, rfl⟩

/-- All that an operation comes to is settled with its first piece. -/
structure Settles (s : Service) (p : Operation) (a : Option Nat)
    (t : Service) : Prop where
  agree : (s.undertake p).Agree t p.id
  sent : t.outbox =
    s.outbox ++ ((s.undertake p).owes (s.worker p)).map (Dispatch.mk s.clock)
  answer : a = (s.undertake p).promise? (s.worker p)

theorem Performs.settles (hperforms : s.Performs p a t) (hoffers : s.Offers p) :
    s.Settles p a t := by
  obtain ⟨⟨pieces, hadvances, rfl⟩, hdone, rfl⟩ := hperforms
  have hcarries := carries_run hadvances
  refine ⟨(hcarries.leaves p.id).agree hcarries.stays, ?_, ?_⟩
  · obtain ⟨sent, houtbox, howed⟩ := hcarries.sent
    rw [hdone.owes_eq_nil, List.map_nil, List.append_nil,
      ← (s.stays_undertake p).clock] at howed
    rw [houtbox, outbox_undertake hoffers, howed]
  · rw [← hcarries.promise, hdone.promise?_eq]

/-! ## Two operations -/

/-- An operation comes to the same after an operation on another message as
without it. -/
theorem Performs.same_after (hs : s.InOrder) (hother : p.id ≠ q.id)
    (hp : s.Offers p) (hq : s.Offers q) (hwithout : s.Performs p a m)
    (hbefore : s.Performs q b n) (hafter : n.Performs p a' u) :
    a = a' ∧ m.Agree u p.id ∧ ∃ sent, m.outbox = s.outbox ++ sent ∧
      u.outbox = n.outbox ++ sent ∧
      ∀ d ∈ sent, d.record.id = p.id := by
  have hn := hs.underway hbefore.1
  have hleaves := hbefore.1.leaves hs hq fun same => hother same.symm
  have hp' := hleaves.offers hp
  have hagree := hleaves.agree hbefore.1.stays
  have hconcur :=
    hagree.concur_undertake hs.separate hn.separate hs.keyed hp hp'
  have hfirst := hwithout.settles hp
  have hsecond := hafter.settles hp'
  have howes : (n.undertake p).owes (n.worker p) =
      (s.undertake p).owes (s.worker p) := by
    rw [owes, owes, hconcur.routine]
  refine ⟨?_, hfirst.agree.symm.trans (hconcur.agree.trans hsecond.agree), _,
    hfirst.sent, ?_, ?_⟩
  · rw [hfirst.answer, hsecond.answer, promise?, promise?, hconcur.routine]
  · rw [hsecond.sent, howes, hagree.clock]
  · intro d hd
    obtain ⟨r, hr, rfl⟩ := List.mem_map.1 hd
    exact hs.id_of_owes hp r hr

theorem filter_eq_nil_of_other {sent : List Dispatch} {id' : MessageId}
    (hother : id ≠ id') (hsent : ∀ d ∈ sent, d.record.id = id) :
    (sent.filter fun d => d.record.id = id') = [] := by
  rw [List.filter_eq_nil_iff]
  intro d hd
  simpa [hsent d hd] using hother

theorem tally_of_agree (ht : t.Separate) (hu : u.Separate)
    (hagree : ∀ id, t.Agree u id)
    (hsent : ∀ id, (t.outbox.filter fun d => d.record.id = id) =
      u.outbox.filter fun d => d.record.id = id) : t.Tally u where
  ledger := by
    have hrecords : t.ledger.records = u.ledger.records :=
      Table.ext fun id => (hagree id).record
    have hattempts : t.ledger.attempts = u.ledger.attempts :=
      Table.ext fun id => (hagree id).attempts
    rw [Ledger.mk.injEq]
    exact ⟨hrecords, hattempts⟩
  delays := by
    intro id
    rw [ht.matched.armedDelay?_eq, hu.matched.armedDelay?_eq, (hagree id).timer]
  subscribed := by
    intro id
    rw [isSubscribed, isSubscribed, Table.contains_eq, Table.contains_eq,
      (hagree id).isSome_eq]
  sent := hsent

/-- Operations on different messages come to the same in either order. -/
theorem InOrder.commutes (hs : s.InOrder) (hother : p.id ≠ q.id)
    (hp : s.Offers p) (hq : s.Offers q) {b' : Option Nat}
    (hfirst : s.PerformsBoth p a q b t) (hsecond : s.PerformsBoth q b' p a' u) :
    a = a' ∧ b = b' ∧ t.Tally u := by
  obtain ⟨m, hm, ht⟩ := hfirst
  obtain ⟨n, hn, hu⟩ := hsecond
  have hother' : q.id ≠ p.id := fun same => hother same.symm
  obtain ⟨ha, hagree, sent, hsent, hsent', hown⟩ :=
    hm.same_after hs hother hp hq hn hu
  obtain ⟨hb, hagree', sent', hsent₁, hsent₂, hown'⟩ :=
    hn.same_after hs hother' hq hp hm ht
  have hmOrder := hs.underway hm.1
  have hnOrder := hs.underway hn.1
  have hqm := (hm.1.leaves hs hp hother).offers hq
  have hpn := (hn.1.leaves hs hq hother').offers hp
  refine ⟨ha, hb.symm, tally_of_agree (hmOrder.underway ht.1).separate
    (hnOrder.underway hu.1).separate ?_ ?_⟩
  · intro id
    by_cases hisP : p.id = id
    · subst hisP
      exact ((ht.1.leaves hmOrder hqm hother').agree ht.1.stays).symm.trans
        hagree
    · by_cases hisQ : q.id = id
      · subst hisQ
        exact hagree'.symm.trans
          ((hu.1.leaves hnOrder hpn hother).agree hu.1.stays)
      · have hst := ((hm.1.leaves hs hp hisP).agree hm.1.stays).trans
          ((ht.1.leaves hmOrder hqm hisQ).agree ht.1.stays)
        have hsu := ((hn.1.leaves hs hq hisQ).agree hn.1.stays).trans
          ((hu.1.leaves hnOrder hpn hisP).agree hu.1.stays)
        exact hst.symm.trans hsu
  · intro id
    rw [hsent₂, hsent', hsent, hsent₁]
    simp only [List.filter_append, List.append_assoc,
      List.append_cancel_left_eq]
    by_cases hisP : p.id = id
    · rw [filter_eq_nil_of_other
        (fun same => hother (hisP.trans same.symm)) hown']
      simp
    · rw [filter_eq_nil_of_other hisP hown]
      simp

theorem InOrder.independent (hs : s.InOrder) : s.Independent where
  confined := fun p t hp hunderway => hunderway.confined hs hp
  offers := fun p q t hother hp hq hunderway =>
    (hunderway.leaves hs hp hother).offers hq
  completes := by
    intro p q
    obtain ⟨a, t, ht⟩ := hs.performs p
    obtain ⟨b, u, hu⟩ := (hs.underway ht.1).performs q
    exact ⟨a, b, u, t, ht, hu⟩
  commutes := fun p q a b a' b' t u hother hp hq hfirst hsecond =>
    hs.commutes hother hp hq hfirst hsecond

/-- In every run that has come to a ledger with every record under its own id,
operations on different messages do not interfere. -/
theorem independent_of_keyed {start : Service} (hstart : start.Fresh)
    (events : List Event) (hkeyed : (start.run events).ledger.Keyed) :
    (start.run events).Independent :=
  InOrder.independent
    ⟨separate_run hstart events, hkeyed, saving_run hstart.saving events⟩

def paired : Service :=
  (Service.new .standard .empty default 0).run
    [.register (.waiting ⟨"m1"⟩), .resume 0 true, .resume 0 true,
      .register (.waiting ⟨"m2"⟩), .resume 1 true, .resume 1 true, .pass 120000]

/-- An attempt that an operation claims is carried out: saved, and handed
over. -/
def carriedOut (s : Service) (p : Operation) : Service :=
  (s.undertake p).run
    [.resume s.nextTask true, .resume s.nextTask true, .resume s.nextTask true]

theorem performs_carriedOut
    (hadvances : (s.undertake p).Advances (s.worker p)
      [.resume s.nextTask true, .resume s.nextTask true,
        .resume s.nextTask true])
    (htask : (s.carriedOut p).tasks.get? (s.worker p) = a.map Routine.answer) :
    s.Performs p a (s.carriedOut p) := by
  refine ⟨⟨_, hadvances, rfl⟩, ?_⟩
  cases a with
  | none => simp [Done, answer?, htask]
  | some resent => simp [Done, answer?, htask, Routine.isDone, Routine.answer?]

/-- The user sends one message again and the timer another: both are sent in
either order. -/
theorem independent_of_keyed_paired :
    paired.ledger.Keyed ∧ paired.Independent ∧
    paired.PerformsBoth (.resend ⟨"m1"⟩) (some 1) (.fire ⟨"m2"⟩) none
      ((paired.carriedOut (.resend ⟨"m1"⟩)).carriedOut (.fire ⟨"m2"⟩)) ∧
    paired.PerformsBoth (.fire ⟨"m2"⟩) none (.resend ⟨"m1"⟩) (some 1)
      ((paired.carriedOut (.fire ⟨"m2"⟩)).carriedOut (.resend ⟨"m1"⟩)) ∧
    ((paired.carriedOut (.resend ⟨"m1"⟩)).carriedOut (.fire ⟨"m2"⟩)).Tally
      ((paired.carriedOut (.fire ⟨"m2"⟩)).carriedOut (.resend ⟨"m1"⟩)) ∧
    ((paired.carriedOut (.resend ⟨"m1"⟩)).carriedOut (.fire ⟨"m2"⟩)).outbox.map
      (fun d => d.record.id) = [⟨"m1"⟩, ⟨"m2"⟩] ∧
    ((paired.carriedOut (.fire ⟨"m2"⟩)).carriedOut (.resend ⟨"m1"⟩)).outbox.map
      (fun d => d.record.id) = [⟨"m2"⟩, ⟨"m1"⟩] := by
  have hfresh := fresh_new .standard none 0 default 0
  have hkeyed : paired.ledger.Keyed :=
    ((hfresh.coherent Ledger.keyed_empty).run _).ledger.keyed
  have hindependent : paired.Independent := independent_of_keyed hfresh _ hkeyed
  have hfirst :
      paired.PerformsBoth (.resend ⟨"m1"⟩) (some 1) (.fire ⟨"m2"⟩) none
      ((paired.carriedOut (.resend ⟨"m1"⟩)).carriedOut (.fire ⟨"m2"⟩)) :=
    ⟨_, performs_carriedOut ⟨.save _ _ _ rfl, .write _ _ _ _ rfl,
      .send _ _ _ rfl, trivial⟩ (by decide),
      performs_carriedOut ⟨.save _ _ _ rfl, .write _ _ _ _ rfl, .send _ _ _ rfl,
        trivial⟩ (by decide)⟩
  have hsecond :
      paired.PerformsBoth (.fire ⟨"m2"⟩) none (.resend ⟨"m1"⟩) (some 1)
      ((paired.carriedOut (.fire ⟨"m2"⟩)).carriedOut (.resend ⟨"m1"⟩)) :=
    ⟨_, performs_carriedOut ⟨.save _ _ _ rfl, .write _ _ _ _ rfl,
      .send _ _ _ rfl, trivial⟩ (by decide),
      performs_carriedOut ⟨.save _ _ _ rfl, .write _ _ _ _ rfl, .send _ _ _ rfl,
        trivial⟩ (by decide)⟩
  have htally := hindependent.commutes (.resend ⟨"m1"⟩)
    (.fire ⟨"m2"⟩) _ _ _ _ _ _ (by decide) trivial trivial hfirst hsecond
  exact ⟨hkeyed, hindependent, hfirst, hsecond, htally.2.2,
    by decide, by decide⟩

end Redelivery.Service
