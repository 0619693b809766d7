import Mathlib.Data.List.Induction
import Redelivery.Proofs.Ledger.Format
import Redelivery.Proofs.Resend.Crashes
import Redelivery.Proofs.Resend.Delivery

/-!
# Messages are sent again as they were given

A record is given to the service where it is registered or loaded.  From then on
only its status changes, and only where a task that follows the message finds
another one.  So what is sent is what was given, in whatever order messages are
reported on, saved, sent again and loaded.
-/

namespace Redelivery

/-- What happens to a service and to those that take its place: an incident, or
a save by whoever runs it, as when it is ended in good order. -/
inductive Occurrence where
  | incident (i : Incident)
  | save
deriving DecidableEq

namespace Service

def undergo (s : Service) : Occurrence → Service
  | .incident i => s.meet i
  | .save => { s with kept := some s.ledger, saves := s.saves + 1 }

/-- What a service becomes by some occurrences, one after the other. -/
def outlive (s : Service) (occurrences : List Occurrence) : Service :=
  occurrences.foldl undergo s

/-- The record of a message as it was given, after an occurrence: one that is
registered, or what is loaded, takes the place of the one before. -/
def gives (s : Service) (id : MessageId) (given : Option Record) :
    Occurrence → Option Record
  | .incident (.event (.register r)) =>
    if s.shutDown = false ∧ r.id = id then some r else given
  | .incident .crash => s.reload.ledger.get? id
  | _ => given

/-- The record of a message as it was given, after some occurrences. -/
def givenSince (s : Service) (id : MessageId) (given : Option Record) :
    List Occurrence → Option Record
  | [] => given
  | o :: rest => (s.undergo o).givenSince id (s.gives id given o) rest

/-- The record of a message as it was last registered or loaded in the course of
some occurrences. -/
def given? (s : Service) (id : MessageId) (occurrences : List Occurrence) :
    Option Record :=
  s.givenSince id (s.ledger.get? id) occurrences

variable {s t start : Service} {e : Event} {o : Occurrence} {id : MessageId}
  {r : Record}
  {occurrences : List Occurrence} {copy : Ledger} {task : Nat}

theorem outlive_concat (s : Service) (occurrences : List Occurrence)
    (o : Occurrence) :
    s.outlive (occurrences ++ [o]) = (s.outlive occurrences).undergo o := by
  simp [outlive]

theorem givenSince_concat (s : Service) (id : MessageId) (given : Option Record)
    (occurrences : List Occurrence) (o : Occurrence) :
    s.givenSince id given (occurrences ++ [o]) =
      (s.outlive occurrences).gives id
        (s.givenSince id given occurrences) o := by
  induction occurrences generalizing s given with
  | nil => rfl
  | cons first rest ih => exact ih (s.undergo first) (s.gives id given first)

theorem given?_concat (s : Service) (id : MessageId)
    (occurrences : List Occurrence) (o : Occurrence) :
    s.given? id (occurrences ++ [o]) =
      (s.outlive occurrences).gives id (s.given? id occurrences) o :=
  s.givenSince_concat id _ occurrences o

/-! ## What the store holds -/

/-- A ledger is that of the service after some of the occurrences. -/
def Held (start : Service) (occurrences : List Occurrence)
    (l : Ledger) : Prop :=
  ∃ first, first <+: occurrences ∧ l = (start.outlive first).ledger

theorem held_last (start : Service) (occurrences : List Occurrence) :
    start.Held occurrences (start.outlive occurrences).ledger :=
  ⟨occurrences, List.prefix_refl _, rfl⟩

theorem Held.append {l : Ledger} (hl : start.Held occurrences l)
    (o : Occurrence) :
    start.Held (occurrences ++ [o]) l := by
  obtain ⟨first, hfirst, hledger⟩ := hl
  exact ⟨first, hfirst.trans (List.prefix_append _ _), hledger⟩

/-- What is stored or being saved is the ledger of an earlier time, unless it
was stored from the beginning. -/
structure Stocked (start : Service) (occurrences : List Occurrence) : Prop where
  saving : (start.outlive occurrences).Saving
  copies : ∀ task copy, (start.outlive occurrences).Saves task copy →
    start.Held occurrences copy
  kept : ∀ l ∈ (start.outlive occurrences).kept, l ∈ start.kept ∨
    start.Held occurrences l

theorem Stocked.event (hs : start.Stocked occurrences) (e : Event) :
    start.Stocked (occurrences ++ [.incident (.event e)]) := by
  have hcourse := course_step (start.outlive occurrences) e
  have hafter : start.outlive (occurrences ++ [.incident (.event e)]) =
      (start.outlive occurrences).step e := start.outlive_concat _ _
  rw [← hafter] at hcourse
  refine ⟨hcourse.saving hs.saving, ?_, ?_⟩
  · intro task copy hsaves
    rcases hcourse.saves_cases hs.saving hsaves with hbefore | ⟨-, hcopy, -⟩
    · exact (hs.copies task copy hbefore).append _
    · rw [hcopy]
      exact (start.held_last occurrences).append _
  · intro l hl
    rcases hcourse.kept_cases hs.saving with hsame |
      ⟨task, copy, -, hsaves, hkept, -⟩
    · rw [hsame] at hl
      exact (hs.kept l hl).imp_right fun hheld => hheld.append _
    · rw [hkept] at hl
      cases hl
      exact .inr ((hs.copies task _ hsaves).append _)

theorem Stocked.crash (hs : start.Stocked occurrences) :
    start.Stocked (occurrences ++ [.incident .crash]) := by
  have hafter : start.outlive (occurrences ++ [.incident .crash]) =
      (start.outlive occurrences).reload := start.outlive_concat _ _
  have hnone (task : Nat) :
      (start.outlive (occurrences ++ [.incident .crash])).tasks.get? task =
      none := by
    rw [hafter]
    rfl
  refine ⟨⟨?_, ?_⟩, ?_, ?_⟩
  · intro task routine htask
    simp [hnone] at htask
  · rintro task task' copy copy' ⟨next, htask⟩
    simp [hnone] at htask
  · rintro task copy ⟨next, htask⟩
    simp [hnone] at htask
  · intro l hl
    rw [hafter] at hl
    exact (hs.kept l hl).imp_right fun hheld => hheld.append _

theorem Stocked.save (hs : start.Stocked occurrences) :
    start.Stocked (occurrences ++ [.save]) := by
  have hafter : start.outlive (occurrences ++ [.save]) =
      (start.outlive occurrences).undergo .save := start.outlive_concat _ _
  have hlast := (start.held_last occurrences).append .save
  refine ⟨?_, ?_, ?_⟩
  · rw [hafter]
    exact ⟨hs.saving.plain, hs.saving.single⟩
  · intro task copy hsaves
    rw [hafter] at hsaves
    exact (hs.copies task copy hsaves).append _
  · intro l hl
    rw [hafter] at hl
    cases hl
    exact .inr hlast

theorem stocked (hstart : start.Fresh) (occurrences : List Occurrence) :
    start.Stocked occurrences := by
  induction occurrences using List.reverseRecOn with
  | nil =>
    refine ⟨hstart.saving, ?_, fun l hl => .inl hl⟩
    rintro task copy ⟨next, htask⟩
    simp [outlive, hstart.tasks] at htask
  | append_singleton occurrences o ih =>
    cases o with
    | incident i =>
      cases i with
      | event e => exact ih.event e
      | crash => exact ih.crash
    | save => exact ih.save

theorem kept_of_get?_restored {kept : Option Ledger} {now : UInt64}
    (hloaded : (Ledger.restored kept now).get? id = some r) :
    ∃ l ∈ kept, l.get? id = some r := by
  cases kept with
  | none => cases hloaded
  | some l =>
    have hfound : l.find? now id = some r :=
      (Ledger.get?_prune l now id).symm.trans hloaded
    exact ⟨l, rfl, (Ledger.find?_eq_some_iff.1 hfound).1⟩

/-- Every ledger on the way has its records under their own ids. -/
theorem keyed_outlive (hstart : start.Fresh) (hkeyed : start.ledger.Keyed)
    (hkept : ∀ l ∈ start.kept, l.Keyed) (occurrences : List Occurrence) :
    ∀ first, first <+: occurrences → (start.outlive first).ledger.Keyed := by
  induction occurrences using List.reverseRecOn with
  | nil =>
    intro first hfirst
    rw [List.prefix_nil.1 hfirst]
    exact hkeyed
  | append_singleton occurrences o ih =>
    intro first hfirst
    rcases List.prefix_concat_iff.1 hfirst with rfl | hearlier
    · have hlast := ih occurrences (List.prefix_refl _)
      rw [outlive_concat]
      cases o with
      | save => exact hlast
      | incident i =>
        cases i with
        | event e => exact (transition_step _ e).keyed hlast
        | crash =>
          refine Ledger.Keyed.restored (fun l hl => ?_) _
          rcases (stocked hstart occurrences).kept l hl with hstored |
            ⟨held, hheld, rfl⟩
          · exact hkept l hstored
          · exact ih held hheld
    · exact ih first hearlier

/-! ## Only the status of a record is replaced -/

theorem ledger_step_register (s : Service) (r : Record) :
    (s.step (.register r)).ledger =
      if s.shutDown then s.ledger
      else if r.status.isReceived then s.ledger.remove r.id
        else s.ledger.upsert r := by
  unfold step register
  simp only [DeliveryStatus.detach_classify]
  split
  next => rfl
  next =>
    split
    next hreceived => simp [ledger_apply, hreceived]
    next howed => simp [ledger_apply, howed]

/-- What is found after a record was applied is that record, or was there
before. -/
theorem get?_applied_cases {l : Ledger} {found : Record}
    (hfound : (if r.status.isReceived then l.remove r.id else l.upsert r).get?
      id = some found) :
    (id = r.id ∧ found = r) ∨ (id ≠ r.id ∧ l.get? id = some found) := by
  by_cases hid : id = r.id
  · left
    split at hfound
    next => simp [hid] at hfound
    next =>
      rw [Ledger.get?_upsert, if_pos hid] at hfound
      exact ⟨hid, (Option.some.inj hfound).symm⟩
  · right
    split at hfound
    next =>
      rw [Ledger.get?_remove, if_neg hid] at hfound
      exact ⟨hid, hfound⟩
    next =>
      rw [Ledger.get?_upsert, if_neg hid] at hfound
      exact ⟨hid, hfound⟩

def Preserves (s : Service) (given : MessageId → Option Record) : Prop :=
  ∀ id r, s.ledger.get? id = some r →
    ∃ base, given id = some base ∧ r = base.withStatus r.status

variable {given : MessageId → Option Record}

theorem Preserves.register (hs : s.Preserves given) (r : Record) :
    (s.step (.register r)).Preserves
      fun id => if s.shutDown = false ∧ r.id = id then some r
        else given id := by
  intro id found hfound
  rw [ledger_step_register] at hfound
  cases hshut : s.shutDown with
  | true =>
    rw [hshut, if_pos rfl] at hfound
    simpa using hs id found hfound
  | false =>
    rw [hshut, if_neg Bool.false_ne_true] at hfound
    rcases get?_applied_cases hfound with ⟨rfl, rfl⟩ | ⟨hother, hbefore⟩
    · exact ⟨found, by simp, rfl⟩
    · simpa [hother.symm] using hs id found hbefore

theorem Preserves.step (hs : s.Preserves given) (hkeyed : s.ledger.Keyed)
    (hother : ∀ r, e ≠ .register r) : (s.step e).Preserves given := by
  intro id found hfound
  rcases (transition_step s e).ledger_cases with
    hsame | ⟨applied, happlies, hledger⟩ | ⟨id', n, _, hledger⟩
  · rw [hsame] at hfound
    exact hs id found hfound
  · rw [hledger] at hfound
    cases happlies with
    | register => exact absurd rfl (hother applied)
    | follow worker saved cursor seen status r hhears =>
      rcases get?_applied_cases hfound with ⟨hid, rfl⟩ | ⟨-, hbefore⟩
      · have hfollowed : id = cursor.id := hid.trans (hhears.id_eq hkeyed)
        have hbefore : s.ledger.get? id = some r := by
          rw [hfollowed]
          exact (Ledger.find?_eq_some_iff.1 hhears.live).1
        obtain ⟨base, hgiven, hrecord⟩ := hs id r hbefore
        refine ⟨base, hgiven, ?_⟩
        rw [hrecord]
        rfl
      · exact hs id found hbefore
  · rw [hledger, Ledger.get?_setAttempts] at hfound
    exact hs id found hfound

theorem preserves_outlive (hstart : start.Fresh) (hkeyed : start.ledger.Keyed)
    (hkept : ∀ l ∈ start.kept, l.Keyed) (occurrences : List Occurrence) :
    (start.outlive occurrences).Preserves fun id =>
      start.given? id occurrences := by
  induction occurrences using List.reverseRecOn with
  | nil => exact fun id r hr => ⟨r, hr, rfl⟩
  | append_singleton occurrences o ih =>
    have hlast := keyed_outlive hstart hkeyed hkept occurrences occurrences
      (List.prefix_refl _)
    simp only [outlive_concat, given?_concat]
    cases o with
    | save => exact ih
    | incident i =>
      cases i with
      | crash => exact fun id r hr => ⟨r, hr, rfl⟩
      | event e =>
        by_cases hregister : ∃ r, e = .register r
        · obtain ⟨r, rfl⟩ := hregister
          exact ih.register r
        · have hother : ∀ r, e ≠ .register r := fun r he => hregister ⟨r, he⟩
          have hgives (id : MessageId) (g : Option Record) :
              (start.outlive occurrences).gives id g (.incident (.event e)) =
                g := by
            cases e with
            | register r => exact absurd rfl (hother r)
            | _ => rfl
          simp only [hgives]
          exact ih.step hlast hother

/-- Timers, sweeps and requests of the user change no record, and neither does
any piece of a task but of one that follows a message. -/
theorem records_step (s : Service) (hregister : ∀ r, e ≠ .register r)
    (hfollow : ∀ task saved cursor, e = .resume task saved →
      s.tasks.get? task ≠ some (.follow cursor)) :
    (s.step e).ledger.records = s.ledger.records := by
  rcases (transition_step s e).ledger_cases with
    hsame | ⟨r, happlies, -⟩ | ⟨id, n, -, hledger⟩
  · rw [hsame]
  · cases happlies with
    | register => exact absurd rfl (hregister r)
    | follow worker saved cursor seen status r hhears =>
      exact absurd hhears.following (hfollow worker saved cursor rfl)
  · rw [hledger]
    rfl

end Service

namespace Journal

open Service (Preserves)

def undergo (j : Journal) : Occurrence → Journal
  | .incident i => j.meet i
  | .save => { j with service := j.service.undergo .save }

/-- Enters some occurrences, one after the other. -/
def outlive (j : Journal) (occurrences : List Occurrence) : Journal :=
  occurrences.foldl undergo j

variable {j : Journal} {start : Service} {a : Attempt}
  {occurrences : List Occurrence} {place : Nat}

theorem outlive_concat (j : Journal) (occurrences : List Occurrence)
    (o : Occurrence) :
    j.outlive (occurrences ++ [o]) = (j.outlive occurrences).undergo o := by
  simp [outlive]

theorem service_undergo (j : Journal) (o : Occurrence) :
    (j.undergo o).service = j.service.undergo o := by
  cases o with
  | incident i => exact service_meet j i
  | save => rfl

theorem service_outlive (j : Journal) (occurrences : List Occurrence) :
    (j.outlive occurrences).service = j.service.outlive occurrences := by
  induction occurrences using List.reverseRecOn with
  | nil => rfl
  | append_singleton occurrences o ih =>
    rw [outlive_concat, Service.outlive_concat, service_undergo, ih]

theorem Orderly.undergo (hj : j.Orderly start) (o : Occurrence) :
    (j.undergo o).Orderly start := by
  cases o with
  | incident i => exact hj.meet i
  | save => exact ⟨⟨hj.placed, hj.apart, hj.outbox⟩, hj.latest, hj.owing⟩

theorem Orderly.outlive (hj : j.Orderly start) (occurrences : List Occurrence) :
    (j.outlive occurrences).Orderly start := by
  induction occurrences using List.reverseRecOn with
  | nil => exact hj
  | append_singleton occurrences o ih =>
    rw [outlive_concat]
    exact ih.undergo o

/-- Every attempt in the account was claimed by one of the events. -/
theorem claimed_of_claims
    (hclaims : ((opened start).outlive occurrences).claims[place]? = some a) :
    ∃ before e after, occurrences = before ++ .incident (.event e) :: after ∧
      ((opened start).outlive before).claims.length = place ∧
      (start.outlive before).claimed? e = some a := by
  induction occurrences using List.reverseRecOn with
  | nil => simp [outlive, opened] at hclaims
  | append_singleton occurrences o ih =>
    have hbefore
        (hold : ((opened start).outlive occurrences).claims[place]? = some a) :
        ∃ before e after,
          occurrences ++ [o] = before ++ .incident (.event e) :: after ∧
          ((opened start).outlive before).claims.length = place ∧
          (start.outlive before).claimed? e = some a := by
      obtain ⟨before, e, after, rfl, hplace, hclaimed⟩ := ih hold
      exact ⟨before, e, after ++ [o], by simp, hplace, hclaimed⟩
    rw [outlive_concat] at hclaims
    cases o with
    | save => exact hbefore hclaims
    | incident i =>
      cases i with
      | crash => exact hbefore hclaims
      | event e =>
        have hservice : ((opened start).outlive occurrences).service =
            start.outlive occurrences :=
          service_outlive _ _
        change (((opened start).outlive occurrences).claims ++
          (((opened start).outlive occurrences).service.claimed?
            e).toList)[place]? = some a
          at hclaims
        rw [hservice] at hclaims
        cases hclaimed : (start.outlive occurrences).claimed? e with
        | none =>
          rw [hclaimed, Option.toList_none, List.append_nil] at hclaims
          exact hbefore hclaims
        | some claimed =>
          rw [hclaimed, Option.toList_some, List.getElem?_append] at hclaims
          split at hclaims
          next => exact hbefore hclaims
          next hlater =>
            obtain ⟨hplace, hsame⟩ := List.getElem?_eq_some_iff.1 hclaims
            simp only [List.length_singleton] at hplace
            simp only [List.getElem_singleton] at hsame
            refine ⟨occurrences, e, [], rfl, by omega, ?_⟩
            rw [hclaimed, hsame]

end Journal

namespace Service

variable {start : Service} {occurrences : List Occurrence}

/-- Whatever happens to a service and to those that take its place, messages
stay as they were given. -/
structure Verbatim (start : Service)
    (occurrences : List Occurrence) : Prop where
  /-- Only the status of a record was replaced since it was registered or loaded
  last. -/
  records : ∀ id r, (start.outlive occurrences).ledger.get? id = some r →
    ∃ base, start.given? id occurrences = some base ∧
      r = base.withStatus r.status
  /-- Only a registration and a task that follows a message change records, so
  that no timer, no sweep and no request of the user does. -/
  unchanged : ∀ e, (∀ r, e ≠ .register r) →
    (∀ task saved cursor, e = .resume task saved →
      (start.outlive occurrences).tasks.get? task ≠ some (.follow cursor)) →
    ((start.outlive occurrences).step e).ledger.records =
      (start.outlive occurrences).ledger.records
  /-- Every message that is handed over spends an attempt of its own. -/
  accounts : ((Journal.opened start).outlive occurrences).Accounts start
  /-- What is handed over is what was registered or loaded last before the
  attempt was claimed. -/
  sent : ∀ place a,
    (place, a) ∈ ((Journal.opened start).outlive occurrences).sent →
    ∃ before e after base,
      occurrences = before ++ .incident (.event e) :: after ∧
      ((Journal.opened start).outlive before).claims.length = place ∧
      (start.outlive before).claimed? e = some a ∧
      start.given? a.id before = some base ∧ a.record.payload = base.payload ∧
      a.record.receiver = base.receiver ∧ a.record.sender = base.sender
  /-- What is loaded from the store was in it from the beginning, or is what was
  registered or loaded at some time, but for its status. -/
  loaded : ∀ id r, (start.outlive occurrences).reload.ledger.get? id = some r →
    (∃ l ∈ start.kept, l.get? id = some r) ∨
      ∃ first base, first <+: occurrences ∧ start.given? id first = some base ∧
        r = base.withStatus r.status
  /-- A file to which the store is written is read back as what the store
  holds. -/
  read : ∀ l ∈ (start.outlive occurrences).kept, ∀ bytes, l.WrittenAs bytes →
    bytes.length < UInt64.size → Ledger.decode bytes = .ok l

/-- Messages are sent again as they were given, through any number of status
changes, saves, restarts and attempts. -/
theorem verbatim_of_keyed (hstart : start.Fresh) (hkeyed : start.ledger.Keyed)
    (hkept : ∀ l ∈ start.kept, l.Keyed) (occurrences : List Occurrence) :
    start.Verbatim occurrences where
  records := preserves_outlive hstart hkeyed hkept occurrences
  unchanged := fun e hregister hfollow => records_step _ hregister hfollow
  accounts := ((Journal.orderly_opened hstart).outlive occurrences).toAccounts
  sent := by
    intro place a hsent
    have hplaced :=
      ((Journal.orderly_opened hstart).outlive occurrences).placed place a hsent
    obtain ⟨before, e, after, rfl, hplace, hclaimed⟩ :=
      Journal.claimed_of_claims hplaced
    have hrecord := (Ledger.find?_eq_some_iff.1 (claims_step hclaimed).live).1
    obtain ⟨base, hgiven, hsame⟩ :=
      preserves_outlive hstart hkeyed hkept before a.id _ hrecord
    refine ⟨before, e, after, base, rfl, hplace, hclaimed, hgiven, ?_⟩
    rw [hsame]
    exact ⟨rfl, rfl, rfl⟩
  loaded := by
    intro id r hloaded
    obtain ⟨l, hl, hr⟩ := kept_of_get?_restored hloaded
    rcases (stocked hstart occurrences).kept l hl with hbeginning |
      ⟨first, hfirst, rfl⟩
    · exact .inl ⟨l, hbeginning, hr⟩
    · obtain ⟨base, hgiven, hsame⟩ :=
        preserves_outlive hstart hkeyed hkept first id r hr
      exact .inr ⟨first, base, hfirst, hgiven, hsame⟩
  read := by
    intro l _ bytes hform hshort
    have hwhole := Ledger.decode_append hform hshort []
    rwa [List.append_nil, if_pos rfl] at hwhole

def store : Ledger :=
  Ledger.empty.upsert (.waiting ⟨"m1"⟩)

def resumed : Service :=
  { Service.new .standard (.restored (some store) 5) default 5 with
    kept := some store }

/-- The message of a loaded record fails, which is saved; the service that is
loaded then sends it again for the user. -/
def failedAndSent : List Occurrence :=
  [.incident (.event .start), .incident (.event (.report ⟨"m1"⟩ .failed)),
    .incident (.event (.resume 0 true)),
    .incident (.event (.resume 1 true)), .save,
    .incident .crash, .incident (.event (.resend ⟨"m1"⟩)),
    .incident (.event (.resume 0 true)),
    .incident (.event (.resume 0 true)), .incident (.event (.resume 0 true))]

/-- What is sent after the crash is what was loaded before it, with the status
that was saved. -/
theorem verbatim_of_keyed_failedAndSent :
    resumed.Fresh ∧ resumed.ledger.Keyed ∧ (∀ l ∈ resumed.kept, l.Keyed) ∧
    resumed.Verbatim failedAndSent ∧
    (resumed.outlive failedAndSent).outbox =
      [⟨0, (Record.waiting ⟨"m1"⟩).withStatus .failed⟩] ∧
    resumed.given? ⟨"m1"⟩ (failedAndSent.take 5) = some (.waiting ⟨"m1"⟩) ∧
    resumed.given? ⟨"m1"⟩ failedAndSent =
      some ((Record.waiting ⟨"m1"⟩).withStatus .failed) := by
  have hfresh : resumed.Fresh :=
    ⟨⟨some store, 5, rfl⟩, rfl, rfl, rfl, rfl, rfl, rfl, .empty⟩
  have hstored : store.Keyed := Ledger.keyed_empty.upsert _
  have hkept : ∀ l ∈ resumed.kept, l.Keyed := by
    rintro l ⟨⟩
    exact hstored
  have hkeyed : resumed.ledger.Keyed := Ledger.Keyed.restored hkept 5
  exact ⟨hfresh, hkeyed, hkept,
    verbatim_of_keyed hfresh hkeyed hkept failedAndSent, by decide,
    by decide, by decide⟩

end Service

end Redelivery
