import Redelivery.Proofs.Resend.Claims

/-!
# The account of a run

A journal keeps, beside the service, the attempts that were claimed and those
that were spent on handing a message over.  It shows that the counter of a
message is what it was plus the attempts claimed since, which bounds them
whatever is interleaved; and that every message that is handed over spends an
attempt of its own.
-/

namespace Redelivery

open Service (Course Claims)

/-- A service with an account of the attempts since it was opened. -/
structure Journal where
  service : Service
  /-- The attempts that were claimed, in order. -/
  claims : List Attempt
  /-- The latest attempt of each task, with its place among the claims. -/
  carried : Table Nat (Nat × Attempt)
  /-- The attempts that messages were handed over for, with their places, in
  order. -/
  sent : List (Nat × Attempt)

namespace Journal

def opened (s : Service) : Journal :=
  ⟨s, [], .empty, []⟩

/-- Enters an event.  A task that hands a message over does so for its latest
attempt. -/
def step (j : Journal) (e : Event) : Journal where
  service := j.service.step e
  claims := j.claims ++ (j.service.claimed? e).toList
  carried :=
    match j.service.claimed? e with
    | some a => j.carried.insert a.task (j.claims.length, a)
    | none => j.carried
  sent :=
    match j.service.sender? e with
    | some task => j.sent ++ (j.carried.get? task).toList
    | none => j.sent

def run (j : Journal) (events : List Event) : Journal :=
  events.foldl step j

variable {j : Journal} {e : Event} {id : MessageId} {s start : Service}

@[simp]
theorem service_step (j : Journal) (e : Event) :
    (j.step e).service = j.service.step e := rfl

@[simp]
theorem run_nil (j : Journal) : j.run [] = j := rfl

@[simp]
theorem run_cons (j : Journal) (e : Event) (events : List Event) :
    j.run (e :: events) = (j.step e).run events := rfl

@[simp]
theorem service_run (j : Journal) (events : List Event) :
    (j.run events).service = j.service.run events := by
  induction events generalizing j with
  | nil => rfl
  | cons e rest ih => exact ih (j.step e)

theorem run_append (j : Journal) (first second : List Event) :
    j.run (first ++ second) = (j.run first).run second :=
  List.foldl_append

theorem service_opened (s : Service) : (opened s).service = s := rfl

theorem step_of_claimed {a : Attempt}
    (hclaimed : j.service.claimed? e = some a) :
    j.step e = ⟨j.service.step e, j.claims ++ [a],
      j.carried.insert a.task (j.claims.length, a), j.sent⟩ := by
  simp [step, hclaimed, Service.sender?_of_claimed? hclaimed]

theorem carried_step_of_ne {task : Nat}
    (hother : ∀ a, j.service.claimed? e = some a → a.task ≠ task) :
    (j.step e).carried.get? task = j.carried.get? task := by
  cases hclaimed : j.service.claimed? e with
  | none => simp [step, hclaimed]
  | some a =>
    have hne : task ≠ a.task := fun same => hother a hclaimed same.symm
    simp [step_of_claimed hclaimed, hne]

theorem carried_run_of_claimed {events : List Event} {a : Attempt}
    (hclaimed : (s.run events).claimed? e = some a) :
    ∃ place, ((opened s).run (events ++ [e])).carried.get? a.task =
      some (place, a) := by
  have hclaimed : ((opened s).run events).service.claimed? e = some a := by
    rwa [service_run, service_opened]
  rw [run_append, run_cons, run_nil, step_of_claimed hclaimed]
  exact ⟨((opened s).run events).claims.length, by simp⟩

/-! ## The bounds -/

/-- What the claims for a message come to, if it was attempted `first` times
when the journal was opened: its counter has grown by one for each, and each
bound limits those that are held against it. -/
structure Bounded (j : Journal) (id : MessageId) (first : Nat) : Prop where
  counted : j.service.made id = first + j.claims.countP (·.id = id)
  /-- The attempts against one bound. -/
  within : ∀ bound : ResendBound,
    j.claims.countP (fun a => a.id = id ∧ a.bound = bound) ≤
      (bound.limit j.service.config).toNat + 1 - first
  together : j.claims.countP (·.id = id) ≤
    max j.service.config.maxAutoResends.toNat
      j.service.config.maxManualResends.toNat + 1 - first
  /-- The counter that attempts against one bound lead to, if there are no
  others. -/
  alone : ∀ bound : ResendBound, (∀ a ∈ j.claims, a.id = id → a.bound = bound) →
    j.service.made id ≤ max first ((bound.limit j.service.config).toNat + 1)

theorem bounded_opened (s : Service) (id : MessageId) :
    (opened s).Bounded id (s.made id) where
  counted := rfl
  within := fun _ => Nat.zero_le _
  together := Nat.zero_le _
  alone := fun _ _ => Nat.le_max_left _ _

theorem limit_le_max (bound : ResendBound) (config : ResendConfig) :
    (bound.limit config).toNat ≤
      max config.maxAutoResends.toNat config.maxManualResends.toNat := by
  cases bound
  · exact Nat.le_max_left _ _
  · exact Nat.le_max_right _ _

/-- The message of the attempt is another one. -/
theorem Bounded.step_of_ne {first : Nat} {a : Attempt} {t : Journal}
    (hj : j.Bounded id first) (hother : a.id ≠ id)
    (hclaims : t.claims = j.claims ++ [a])
    (hmade : t.service.made id = j.service.made id)
    (hconfig : t.service.config = j.service.config) : t.Bounded id first where
  counted := by simp [hmade, hclaims, hother, hj.counted]
  within := by
    intro bound
    simpa [hclaims, hother, hconfig] using hj.within bound
  together := by simpa [hclaims, hother, hconfig] using hj.together
  alone := by
    intro bound hall
    rw [hmade, hconfig]
    apply hj.alone bound
    intro b hb
    exact hall b (by simp [hclaims, hb])

/-- The message is attempted once more, within a bound. -/
theorem Bounded.step_of_eq {first : Nat} {a : Attempt} {t : Journal}
    (hj : j.Bounded id first) (hsame : a.id = id)
    (hclaims : t.claims = j.claims ++ [a])
    (hmade : t.service.made id = j.service.made id + 1)
    (hconfig : t.service.config = j.service.config)
    (hwithin : j.service.made id ≤ (a.bound.limit j.service.config).toNat) :
    t.Bounded id first where
  counted := by
    simp [hmade, hclaims, hsame, hj.counted, Nat.add_assoc]
  within := by
    intro bound
    have hcount := hj.counted
    have hfewer : j.claims.countP (fun a => a.id = id ∧ a.bound = bound) ≤
        j.claims.countP (·.id = id) :=
      List.countP_mono_left fun b _ hb => by simp_all
    rw [hconfig, hclaims, List.countP_append, List.countP_singleton]
    by_cases hbound : a.bound = bound
    · subst hbound
      simp only [hsame, and_self, decide_true, if_true]
      omega
    · have hbefore := hj.within bound
      simpa [hbound] using hbefore
  together := by
    have hcount := hj.counted
    have hlimit := limit_le_max a.bound j.service.config
    rw [hconfig, hclaims, List.countP_append, List.countP_singleton]
    simp only [hsame, decide_true, if_true]
    omega
  alone := by
    intro bound hall
    have hbound : a.bound = bound := hall a (by simp [hclaims]) hsame
    rw [hmade, hconfig, ← hbound]
    omega

theorem Bounded.step {first : Nat} (hj : j.Bounded id first)
    (hcounted : j.service.ledger.Counted)
    (hroom : ∀ bound : ResendBound,
      (bound.limit j.service.config).toNat < UInt32.size - 1)
    (hretains : j.service.Retains id (j.service.step e)) :
    (j.step e).Bounded id first := by
  have hcourse := Service.course_step j.service e
  have hconfig := (Service.transition_step j.service e).config
  cases hclaimed : j.service.claimed? e with
  | none =>
    have hclaims : (j.step e).claims = j.claims := by
      simp [Journal.step, hclaimed]
    have hmade : (j.service.step e).made id = j.service.made id := by
      rw [Service.made, hcourse.attempts?_eq hclaimed hcounted hretains,
        Service.made]
    refine ⟨?_, ?_, ?_, ?_⟩
      <;> simp only [service_step, hclaims, hmade, hconfig]
    · exact hj.counted
    · exact hj.within
    · exact hj.together
    · exact hj.alone
  | some a =>
    have hclaims := Service.claims_step hclaimed
    have hmade := hclaims.made_eq (hroom a.bound) id
    have hentered : (j.step e).claims = j.claims ++ [a] := by
      rw [step_of_claimed hclaimed]
    by_cases hsame : a.id = id
    · rw [if_pos hsame] at hmade
      have hwithin := UInt32.le_iff_toNat_le.1 hclaims.within
      rw [hsame] at hwithin
      exact hj.step_of_eq hsame hentered hmade hconfig hwithin
    · rw [if_neg hsame] at hmade
      exact hj.step_of_ne hsame hentered hmade hconfig

/-- The claims for a message stay within their bounds as long as it keeps its
record. -/
theorem Bounded.run {first : Nat} {events : List Event}
    (hj : j.Bounded id first) (hcounted : j.service.ledger.Counted)
    (hroom : ∀ bound : ResendBound,
      (bound.limit j.service.config).toNat < UInt32.size - 1)
    (hkeeps : j.service.Keeps id events) : (j.run events).Bounded id first := by
  induction events generalizing j with
  | nil => exact hj
  | cons e rest ih =>
    have htransition := Service.transition_step j.service e
    apply ih (hj.step hcounted hroom hkeeps.1)
      (htransition.counted hcounted) ?_ hkeeps.2
    rw [service_step, htransition.config]
    exact hroom

/-! ## Every message that is sent spends an attempt of its own -/

/-- Every message that was handed over since `start` spent a claimed attempt,
and no attempt was spent twice. -/
structure Accounts (j : Journal) (start : Service) : Prop where
  placed : ∀ place a, (place, a) ∈ j.sent → j.claims[place]? = some a
  apart : (j.sent.map Prod.fst).Nodup
  outbox : j.service.outbox.map Dispatch.record =
    start.outbox.map Dispatch.record ++ j.sent.map fun spent => spent.2.record

/-- A task owes the message of its latest attempt, which is not spent yet. -/
def Owes (j : Journal) (task : Nat) (owed : List Record) : Prop :=
  ∃ place a, j.carried.get? task = some (place, a) ∧ owed = [a.record] ∧
    place ∉ j.sent.map Prod.fst

/-- The account is in order, also where attempts are still to be spent. -/
structure Orderly (j : Journal) (start : Service) :
    Prop extends j.Accounts start where
  latest : ∀ task place a, j.carried.get? task = some (place, a) →
    j.claims[place]? = some a ∧ a.task = task
  owing : ∀ task routine, j.service.tasks.get? task = some routine →
    routine.owed = [] ∨ j.Owes task routine.owed

/-- What handing a message over does: the attempt that its task carries is
spent, and the task goes on with something that owes nothing. -/
structure Spends (j : Journal) (task place : Nat) (a : Attempt)
    (t : Journal) : Prop where
  carried : j.carried.get? task = some (place, a)
  unspent : place ∉ j.sent.map Prod.fst
  claims : t.claims = j.claims
  carries : t.carried = j.carried
  sent : t.sent = j.sent ++ [(place, a)]
  hands : ∃ next, j.service.tasks.get? task = some (.send a.record next) ∧
    next.owed = [] ∧
    t.service = ({ j.service with
      outbox := j.service.outbox ++ [⟨j.service.clock, a.record⟩] } :
        Service).setRoutine task next

variable {t : Journal} {a : Attempt} {task place : Nat} {routine : Routine}

theorem orderly_opened (hstart : start.Fresh) :
    (opened start).Orderly start where
  placed := by simp [opened]
  apart := List.nodup_nil
  outbox := by simp [opened]
  latest := by simp [opened]
  owing := by
    intro task routine htask
    simp [opened, hstart.tasks] at htask

theorem Orderly.lt_length (hj : j.Orderly start) {place : Nat}
    (hplace : place ∈ j.sent.map Prod.fst) : place < j.claims.length := by
  obtain ⟨⟨_, a⟩, hsent, rfl⟩ := List.mem_map.1 hplace
  exact (List.getElem?_eq_some_iff.1 (hj.placed _ a hsent)).1

/-- Nothing is claimed and nothing is spent. -/
theorem Orderly.step_of_none (hj : j.Orderly start)
    (hclaimed : j.service.claimed? e = none)
    (hsender : j.service.sender? e = none) : (j.step e).Orderly start := by
  have hcourse := Service.course_step j.service e
  have hstep : j.step e = { j with service := j.service.step e } := by
    simp [Journal.step, hclaimed, hsender]
  rw [hstep]
  refine ⟨⟨hj.placed, hj.apart, ?_⟩, hj.latest, ?_⟩
  · rw [hcourse.outbox_eq hsender]
    exact hj.outbox
  · intro task routine htask
    rcases hcourse.owed_cases hclaimed hsender htask with hclear |
      ⟨old, hbefore, howed⟩
    · exact .inl hclear
    · rw [← howed]
      exact hj.owing task old hbefore

/-- An attempt is claimed, and its task owes the message. -/
theorem Orderly.step_of_claimed (hj : j.Orderly start) {a : Attempt}
    (hclaimed : j.service.claimed? e = some a) : (j.step e).Orderly start := by
  have hclaims := Service.claims_step hclaimed
  rw [Journal.step_of_claimed hclaimed]
  refine ⟨⟨?_, hj.apart, ?_⟩, ?_, ?_⟩
  · intro place b hsent
    have hbefore := hj.placed place b hsent
    simp only
    rw [List.getElem?_append_left (List.getElem?_eq_some_iff.1 hbefore).1,
      hbefore]
  · rw [hclaims.outbox]
    exact hj.outbox
  · intro task place b hcarried
    simp only [Table.get?_insert] at hcarried ⊢
    split at hcarried
    next hsame =>
      cases hcarried
      exact ⟨by simp, hsame.symm⟩
    next =>
      obtain ⟨hbefore, htask⟩ := hj.latest task place b hcarried
      rw [List.getElem?_append_left (List.getElem?_eq_some_iff.1 hbefore).1]
      exact ⟨hbefore, htask⟩
  · intro task routine htask
    by_cases hsame : task = a.task
    · right
      obtain ⟨next, hclear, hnew⟩ := hclaims.task
      rw [hsame, hnew] at htask
      cases htask
      refine ⟨j.claims.length, a, by simp [hsame], ?_, ?_⟩
      · simp [hclear.owed]
      · intro hplace
        exact Nat.lt_irrefl _ (hj.lt_length hplace)
    · rw [hclaims.others task hsame] at htask
      rcases hj.owing task routine htask with hclear |
        ⟨place, b, hcarried, howed, hunspent⟩
      · exact .inl hclear
      · exact .inr ⟨place, b, by simp [hsame, hcarried], howed, hunspent⟩

theorem Orderly.spends (hj : j.Orderly start)
    (hsender : j.service.sender? e = some task) :
    ∃ place a, Spends j task place a (j.step e) := by
  obtain ⟨saved, r, next, rfl, htask⟩ := Service.sender?_eq_some_iff.1 hsender
  have hclaimed : j.service.claimed? (.resume task saved) = none := by
    simp [Service.claimed?, htask]
  rcases hj.owing task _ htask with hnone |
    ⟨place, a, hcarried, howed, hunspent⟩
  · cases hnone
  obtain ⟨rfl, hclear⟩ := List.cons_eq_cons.1 howed
  refine ⟨place, a, hcarried, hunspent, ?_, ?_, ?_, next, htask, hclear, ?_⟩
  · simp [Journal.step, hclaimed]
  · simp [Journal.step, hclaimed]
  · simp [Journal.step, hsender, hcarried]
  · exact Service.step_of_sends htask

theorem Spends.tasks_of_ne (hspends : Spends j task place a t) {other : Nat}
    (hother : other ≠ task) :
    t.service.tasks.get? other = j.service.tasks.get? other := by
  obtain ⟨next, _, _, hservice⟩ := hspends.hands
  rw [hservice, Service.tasks_setRoutine, if_neg hother]

theorem Spends.owed_eq_nil (hspends : Spends j task place a t)
    (htask : t.service.tasks.get? task = some routine) : routine.owed = [] := by
  obtain ⟨next, _, hclear, hservice⟩ := hspends.hands
  rw [hservice, Service.tasks_setRoutine, if_pos rfl] at htask
  split at htask
  next => cases htask
  next =>
    cases htask
    exact hclear

/-- A task hands its message over, which spends its attempt. -/
theorem Orderly.of_spends (hj : j.Orderly start)
    (hspends : Spends j task place a t) :
    t.Orderly start where
  placed := by
    intro place' b hsent
    rw [hspends.sent] at hsent
    rw [hspends.claims]
    rcases List.mem_append.1 hsent with hbefore | hnew
    · exact hj.placed place' b hbefore
    · cases List.mem_singleton.1 hnew
      exact (hj.latest task place a hspends.carried).1
  apart := by
    rw [hspends.sent, List.map_append]
    refine List.nodup_append.2 ⟨hj.apart, by simp, ?_⟩
    intro other hother new hnew
    rw [List.mem_singleton.1 hnew]
    rintro rfl
    exact hspends.unspent hother
  outbox := by
    obtain ⟨next, _, _, hservice⟩ := hspends.hands
    simp [hservice, hspends.sent, hj.outbox]
  latest := by
    rw [hspends.carries, hspends.claims]
    exact hj.latest
  owing := by
    intro task' routine htask
    by_cases hsame : task' = task
    · subst hsame
      exact .inl (hspends.owed_eq_nil htask)
    · rw [hspends.tasks_of_ne hsame] at htask
      rcases hj.owing task' routine htask with hnone |
        ⟨place', b, hcarried, howed, hunspent⟩
      · exact .inl hnone
      · right
        refine ⟨place', b, by rw [hspends.carries, hcarried], howed, ?_⟩
        obtain ⟨hclaim, hof⟩ := hj.latest task place a hspends.carried
        obtain ⟨hclaim', hof'⟩ := hj.latest task' place' b hcarried
        have hplaces : place' ≠ place := by
          rintro rfl
          rw [hclaim] at hclaim'
          cases hclaim'
          exact hsame (hof'.symm.trans hof)
        rw [hspends.sent]
        simpa [hplaces] using hunspent

theorem Orderly.step (hj : j.Orderly start) (e : Event) :
    (j.step e).Orderly start := by
  cases hclaimed : j.service.claimed? e with
  | some a => exact hj.step_of_claimed hclaimed
  | none =>
    cases hsender : j.service.sender? e with
    | some task =>
      obtain ⟨place, a, hspends⟩ := hj.spends hsender
      exact hj.of_spends hspends
    | none => exact hj.step_of_none hclaimed hsender

theorem Orderly.run (hj : j.Orderly start) (events : List Event) :
    (j.run events).Orderly start := by
  induction events generalizing j with
  | nil => exact hj
  | cons e rest ih => exact ih (hj.step e)

/-! ## Runs from the beginning -/

/-- The bounds on the attempts hold over every run.  Over any stretch of it in
which a message keeps its record, its counter never falls and grows by one with
each claim for it, so that each bound limits the attempts against it and the
greater of the two limits them all.  Every claim stores the counter that it
leads to, and every message that is handed over spends an attempt of its own. -/
theorem bounded_of_run (hstart : start.Fresh)
    (hroom : ∀ bound : ResendBound,
      (bound.limit start.config).toNat < UInt32.size - 1)
    (before events : List Event) (id : MessageId)
    (hkeeps : (start.run before).Keeps id events) :
    (∀ first later rest, events = first ++ later ++ rest →
      ((start.run before).run first).made id ≤
        ((start.run before).run (first ++ later)).made id) ∧
    ((opened (start.run before)).run events).Bounded id
      ((start.run before).made id) ∧
    (∀ first e rest a, before ++ events = first ++ e :: rest →
      (start.run first).claimed? e = some a →
      (start.run (first ++ [e])).attempts? a.id = some a.count ∧
        a.count.toNat = (start.run first).made a.id + 1 ∧
        a.count.toNat ≤ (a.bound.limit start.config).toNat + 1) ∧
    ((opened start).run (before ++ events)).Accounts start := by
  have hcounted := Service.counted_run hstart.counted
  have hlimits (done : List Event) (bound : ResendBound) :
      (bound.limit (start.run done).config).toNat < UInt32.size - 1 := by
    rw [Service.config_run]
    exact hroom bound
  refine ⟨?_, ?_, ?_, ?_⟩
  · rintro first later rest rfl
    have hlater := (Service.keeps_append.1 (Service.keeps_append.1 hkeeps).1).2
    rw [← Service.run_append] at hlater
    have hbounded := (bounded_opened (start.run (before ++ first)) id).run
      (hcounted _) (hlimits _) hlater
    have hcount := hbounded.counted
    rw [service_run, service_opened, ← Service.run_append] at hcount
    rw [← Service.run_append, ← Service.run_append, ← List.append_assoc, hcount]
    exact Nat.le_add_right _ _
  · exact (bounded_opened _ id).run (hcounted before) (hlimits before) hkeeps
  · rintro first e rest a _ hclaimed
    have hclaims := Service.claims_step hclaimed
    have hwithin := UInt32.le_iff_toNat_le.1 hclaims.within
    have hnext :=
      toNat_nextCount (Nat.lt_of_le_of_lt hwithin (hlimits first a.bound))
    rw [← hclaims.count] at hnext
    refine ⟨?_, hnext, ?_⟩
    · rw [Service.run_append, Service.run_cons, Service.run_nil,
        hclaims.attempts?_eq, if_pos rfl]
    · rw [Service.config_run] at hwithin
      rw [hnext]
      exact Nat.succ_le_succ hwithin
  · exact ((orderly_opened hstart).run _).toAccounts

/-- A service without settings of its own to which a message was handed over. -/
def registered : Service :=
  (Service.new .standard (.restored none 0) default 0).run
    [.register (.waiting ⟨"m1"⟩)]

/-- The message is sent again for the user, and the save on the way to that
fails. -/
def resent : List Event :=
  [.resend ⟨"m1"⟩, .resume 1 true, .resume 1 false, .resume 1 true]

theorem bounded_of_run_resent :
    ((opened registered).run resent).Bounded ⟨"m1"⟩ 1 ∧
      (registered.run resent).made ⟨"m1"⟩ = 2 ∧
      ((opened (Service.new .standard (.restored none 0) default 0)).run
        (.register (.waiting ⟨"m1"⟩) :: resent)).Accounts
          (Service.new .standard (.restored none 0) default 0) ∧
      ((opened registered).run resent).sent =
        [(0, ⟨1, ⟨"m1"⟩, .manual, .waiting ⟨"m1"⟩, 2⟩)] := by
  have hroom (bound : ResendBound) :
      (bound.limit ResendConfig.standard).toNat < UInt32.size - 1 := by
    cases bound <;> decide
  have hkeeps : registered.Keeps ⟨"m1"⟩ resent := by decide
  have hbounds := bounded_of_run (Service.fresh_new .standard none 0 default 0)
    hroom [.register (.waiting ⟨"m1"⟩)] resent ⟨"m1"⟩ hkeeps
  exact ⟨hbounds.2.1, by decide, hbounds.2.2.2, by decide⟩

end Journal

end Redelivery
