import Redelivery.Proofs.Resend.Answers

/-!
# Requests of the user

The user asks for a message to be sent again.  An attempt is claimed then or
not; if it is, the record is handed over once and the answer says so, and
otherwise nothing is handed over and the answer says that, whatever happens
until it is given.  The question whether the user may ask foretells all this but
in one case: the question always lets a message without a counter pass, where
the claim counts it as sent once.
-/

namespace Redelivery

/-- Whether the user may ask: as the claim would have it, or without a
counter. -/
theorem manualResendAvailable_iff {counter : Option UInt32} {limit : UInt32} :
    manualResendAvailable counter limit = true ↔
      attemptsMade counter ≤ limit ∨ counter = none ∧ limit = 0 := by
  cases counter with
  | some n => simp [manualResendAvailable, attemptsMade]
  | none =>
    have hall : (1 : UInt32) ≤ limit ∨ limit = 0 := by
      rw [UInt32.le_iff_toNat_le, ← UInt32.toNat_inj]
      exact Nat.eq_zero_or_pos limit.toNat |>.symm
    simpa [manualResendAvailable, attemptsMade] using hall

namespace Service

/-- A request of the user is granted: it takes one attempt at once, and whatever
happens, its task may come to an answer, and when it does the answer is that one
message was sent again and the record was handed over. -/
structure Accepts (s : Service) (id : MessageId) (r : Record) : Prop where
  claims : Claims s
    ⟨s.nextTask, id, .manual, r, nextCount (attemptsMade (s.attempts? id))⟩
    (s.step (.resend id))
  answered : ∀ events, ∃ later,
    (s.run (.resend id :: (events ++ later))).answer? s.nextTask = some 1
  sends : ∀ events n,
    (s.run (.resend id :: events)).answer? s.nextTask = some n →
    n = 1 ∧ ((s.step (.resend id)).handed s.nextTask events).map
      Dispatch.record = [r]

/-- A request of the user is refused: it changes no record and no counter, the
answer is given at once, and its task never hands anything over. -/
structure Refuses (s : Service) (id : MessageId) : Prop where
  ledger : (s.step (.resend id)).ledger = s.ledger
  answered : ∀ events,
    (s.run (.resend id :: events)).answer? s.nextTask = some 0
  silent : ∀ events, (s.step (.resend id)).handed s.nextTask events = []

/-- A live record whose message was sent once, where the user may never send
again. -/
structure Overlooked (s : Service) (id : MessageId) : Prop where
  live : (s.record? id).isSome = true
  uncounted : s.attempts? id = none
  limit : s.config.maxManualResends = 0

variable {s t : Service} {id : MessageId} {r : Record}

theorem step_of_refuses (hrunning : s.shutDown = false)
    (hclaim : s.claim id .manual false = none) :
    s.step (.resend id) = s.spawn (.answer 0) := by
  simp [step, resend, hrunning, hclaim]

theorem accepts_of_claim (hs : s.Numbered) (hsaving : s.Saving)
    (hrunning : s.shutDown = false)
    (hclaim : s.claim id .manual false = some (r, t)) : s.Accepts id r := by
  have hstep := step_of_resends hrunning hclaim
  have hnext : t.nextTask = s.nextTask := by
    obtain ⟨_, _, _, _, rfl⟩ := claim_eq_some_iff.1 hclaim
    rfl
  have hanswering : (s.step (.resend id)).Answering s.nextTask 1 [r] := by
    have hown := ((leavesOwn_claim hclaim).numbered hs).own_spawn
      (.save (.send r (.answer 1)))
    rw [hstep, ← hnext]
    exact ⟨hown, .save (.send r (.answer 1)),
      by rw [tasks_spawn, if_pos rfl], rfl, rfl⟩
  refine ⟨claims_step (attempt?_of_claim hrunning hclaim s.nextTask), ?_, ?_⟩
  · intro events
    obtain ⟨left, _, hway⟩ := hanswering.run events
    obtain ⟨later, hlater⟩ :=
      hway.finished (saving_run ((course_step s _).saving hsaving) events)
    exact ⟨later, by rw [run_cons, run_append, hlater]⟩
  · intro events n hanswer
    obtain ⟨left, howed, hway⟩ := hanswering.run events
    obtain ⟨hone, hnone⟩ := hway.of_answer? hanswer
    rw [hnone, List.append_nil] at howed
    exact ⟨hone, howed.symm⟩

theorem refuses_of_claim (hs : s.Numbered) (hrunning : s.shutDown = false)
    (hclaim : s.claim id .manual false = none) : s.Refuses id := by
  have hstep := step_of_refuses hrunning hclaim
  have hown : (s.step (.resend id)).Own s.nextTask := by
    rw [hstep]
    exact hs.own_spawn (.answer 0)
  have htask :
      (s.step (.resend id)).tasks.get? s.nextTask = some (.answer 0) := by
    rw [hstep, tasks_spawn, if_pos rfl]
  refine ⟨?_, hown.answered htask, ?_⟩
  · rw [hstep]
    rfl
  · intro events
    have hanswering : (s.step (.resend id)).Answering s.nextTask 0 [] :=
      ⟨hown, .answer 0, htask, rfl, rfl⟩
    obtain ⟨left, howed, _⟩ := hanswering.run events
    exact List.map_eq_nil_iff.1 (List.append_eq_nil_iff.1 howed.symm).1

/-- Every request of the user is granted or refused. -/
theorem accepts_or_refuses (hs : s.Numbered) (hsaving : s.Saving)
    (hrunning : s.shutDown = false) (id : MessageId) :
    (∃ r, s.Accepts id r) ∨ s.Refuses id := by
  cases hclaim : s.claim id .manual false with
  | none => exact .inr (refuses_of_claim hs hrunning hclaim)
  | some claimed =>
    exact .inl ⟨claimed.1, accepts_of_claim hs hsaving hrunning hclaim⟩

theorem Overlooked.refuses (hs : s.Overlooked id) (hnumbered : s.Numbered)
    (hrunning : s.shutDown = false) : s.Refuses id := by
  apply refuses_of_claim hnumbered hrunning
  cases hclaim : s.claim id .manual false with
  | none => rfl
  | some claimed =>
    obtain ⟨_, _, _, hwithin, _⟩ := claim_eq_some_iff.1 hclaim
    rw [hs.uncounted, ResendBound.limit, hs.limit] at hwithin
    exact absurd hwithin (by decide)

/-- The question whether the user may ask foretells whether a request is
granted, but for the records that it overlooks. -/
theorem canManuallyResend_iff (hs : s.Numbered) (hsaving : s.Saving)
    (hrunning : s.shutDown = false) :
    s.canManuallyResend id = true ↔
      (∃ r, s.Accepts id r) ∨ s.Overlooked id := by
  rw [canManuallyResend, Bool.and_eq_true, manualResendAvailable_iff]
  constructor
  · rintro ⟨hlive, hwithin | ⟨huncounted, hlimit⟩⟩
    · obtain ⟨r, hr⟩ := Option.isSome_iff_exists.1 hlive
      have hclaim : s.claim id .manual false = some (r, _) :=
        claim_eq_some_iff.2 ⟨hr, by simp, by simp, hwithin, rfl⟩
      exact .inl ⟨r, accepts_of_claim hs hsaving hrunning hclaim⟩
    · exact .inr ⟨hlive, huncounted, hlimit⟩
  · rintro (⟨r, haccepts⟩ | hoverlooked)
    · exact ⟨by rw [haccepts.claims.live]; rfl, .inl haccepts.claims.within⟩
    · exact ⟨hoverlooked.live, .inr ⟨hoverlooked.uncounted, hoverlooked.limit⟩⟩

end Service

end Redelivery
