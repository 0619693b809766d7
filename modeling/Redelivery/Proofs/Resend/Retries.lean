import Mathlib.Data.List.Perm.Subperm
import Redelivery.Proofs.Resend.Desertion
import Redelivery.Proofs.Resend.Separation

/-!
# What is left to retry

Where nobody registers a message or asks for it to be sent again, every timer is
armed by a status that a task has heard of, every such status answers a message
that was handed over, and every message that is handed over takes an attempt.
Three quantities of a message are compared before and after each event: the
attempts that are left, what is claimed or was handed over, and whether a status
waits to be heard.
-/

namespace Redelivery

/-- Whether an event goes on with what was begun: time passes, a timer's time
comes, a task goes on, somebody asks for a sweep, a node changes or the gateway
reports. -/
def Event.isContinuing : Event → Bool
  | .report .. | .setNode .. | .pass _ | .setCalendar _ | .wake _ | .resume ..
  | .sweep => true
  | _ => false

def Event.reported? : Event → Option MessageId
  | .report id _ => some id
  | _ => none

/-- A cursor that has looked has seen all that there is. -/
theorem StatusSource.unseen?_of_next_eq_changed {s : StatusSource}
    {c c' : StatusCursor} {status : DeliveryStatus}
    (hnext : s.next c = (.changed status, c')) : s.unseen? c' = none := by
  obtain ⟨stream, hunseen, _, rfl⟩ := next_eq_changed_iff.1 hnext
  have hstream :
      s.stream? { c with seen := some stream.version } = some stream :=
    (unseen?_eq_some_iff.1 hunseen).1
  rw [unseen?_eq, hstream]
  simp [Option.filter]

namespace Service

variable {s t : Service} {e : Event} {id : MessageId} {r : Record} {task : Nat}

/-- The message that an event applies a record to. -/
def applied? (s : Service) : Event → Option MessageId
  | .register r => if s.shutDown then none else some r.id
  | .resume task _ =>
    match s.tasks.get? task with
    | some (.follow cursor) =>
      match s.source.next cursor with
      | (.changed _, _) =>
        if s.shutDown || s.subscriptions.get? cursor.id ≠ some task then none
        else (s.record? cursor.id).map Record.id
      | _ => none
    | _ => none
  | _ => none

def fired? (s : Service) : Event → Option MessageId
  | .wake generation =>
    match s.scheduler.sleepers.get? generation with
    | some sleeper => if sleeper.due ≤ s.clock then some sleeper.id else none
    | none => none
  | _ => none

theorem applied?_eq_some_iff :
    s.applied? e = some id ↔ ∃ r, s.Applies e r ∧ r.id = id := by
  constructor
  · intro happlied
    cases e with
    | register r =>
      cases hshut : s.shutDown with
      | true => simp [applied?, hshut] at happlied
      | false =>
        simp only [applied?, hshut, Bool.false_eq_true, if_false,
          Option.some.injEq] at happlied
        exact ⟨r, .register r hshut, happlied⟩
    | resume task saved =>
      simp only [applied?] at happlied
      split at happlied
      next cursor htask =>
        split at happlied
        next status seen hnext =>
          split at happlied
          next => cases happlied
          next hcan =>
            have hcan : s.shutDown = false ∧
                s.subscriptions.get? cursor.id = some task := by
              simpa using hcan
            obtain ⟨r, hlive, rfl⟩ := Option.map_eq_some_iff.1 happlied
            exact ⟨r.withStatus status, .follow task saved cursor seen status r
              ⟨htask, hnext, hcan.1, hcan.2, hlive⟩, rfl⟩
        next => cases happlied
      next => cases happlied
    | _ => cases happlied
  · rintro ⟨r, happlies, rfl⟩
    cases happlies with
    | register r hrunning => simp [applied?, hrunning]
    | follow task saved cursor seen status r hhears =>
      simp only [applied?, hhears.following, hhears.sighted, hhears.running,
        hhears.current, hhears.live]
      simp [Record.withStatus]

/-! ## What is claimed or was handed over -/

def dealtTo (s : Service) (id : MessageId) : Nat :=
  (s.outbox.map Dispatch.record ++ s.owed).countP fun r => r.id = id

/-- How many attempts an event claims for a message. -/
def claimsFor (s : Service) (e : Event) (id : MessageId) : Nat :=
  ((s.claimed? e).toList.map Attempt.record).countP fun r => r.id = id

/-- An event adds to what is claimed or was handed over only what it claims. -/
theorem Transition.dealt_le_claims (htransition : Transition s e t)
    (hcontinuing : e.isContinuing = true) (r : Record) :
    t.dealt r ≤ s.dealt r +
      ((s.claimed? e).toList.map Attempt.record).count r := by
  cases htransition with
  | idle | report | setNode | pass | setCalendar | lapse | exhaust =>
    exact Nat.le_add_right _ _
  | refuse =>
    exact Nat.le_trans (s.dealt_spawn_le (.answer 0) r) (Nat.le_add_right _ _)
  | sweep =>
    exact Nat.le_trans (s.dealt_spawn_le (.sweep s.candidates 0 none) r)
      (Nat.le_add_right _ _)
  | fire generation sleeper r' claimed hsleeper hdue hrunning hcurrent hclaim =>
    have hwoken : (s.woken generation sleeper.id).shutDown = false := hrunning
    have hclaimed := attempt?_of_claim hwoken hclaim s.nextTask
    have hsame : claimed.dealt r = s.dealt r := by
      obtain ⟨_, _, _, _, rfl⟩ := claim_eq_some_iff.1 hclaim
      rfl
    have hspawn := dealt_spawn_le claimed (.save (.send r' .stop)) r
    rw [hsame] at hspawn
    simpa [claimed?, hsleeper, hdue, hcurrent, hclaimed] using hspawn
  | catchUp task saved id rest resent watching r' claimed htask
      hrunning hclaim =>
        have hclaimed := attempt?_of_claim hrunning hclaim task
        have hset := dealt_setRoutine_le claimed task
          (.save (.send r' (.sweep rest (resent + 1) watching))) r
        have hsame : claimed.dealt r = s.dealt r := by
          obtain ⟨_, _, _, _, rfl⟩ := claim_eq_some_iff.1 hclaim
          rfl
        rw [hsame] at hset
        simpa [claimed?, htask, hclaimed] using hset
  | chore task saved old left u htask _ hchore =>
    exact Nat.le_trans (Nat.le_of_eq (hchore.dealt htask r))
      (Nat.le_add_right _ _)
  | restate task saved cursor seen status r' =>
    refine Nat.le_trans (dealt_setRoutine_le _ task _ r)
      (Nat.le_trans ?_ (Nat.le_add_right _ _))
    have happly := s.dealt_apply_le (r'.withStatus status) (some task) r
    split <;> simpa using happly
  | drop task saved cursor =>
    exact Nat.le_trans (dealt_setRoutine_le _ task .stop r)
      (Nat.le_add_right _ _)
  | leave task saved cursor =>
    exact Nat.le_trans (s.dealt_setRoutine_le task .stop r)
      (Nat.le_add_right _ _)
  | hear task saved position heard id =>
    refine Nat.le_trans (dealt_setRoutine_le _ task (.listen heard) r) ?_
    exact Nat.le_trans (s.dealt_attachTracked_le id r) (Nat.le_add_right _ _)
  | rescan task saved position heard =>
    refine Nat.le_trans (dealt_setRoutine_le _ task (.listen heard) r) ?_
    exact Nat.le_trans (s.dealt_attachKnown_le r) (Nat.le_add_right _ _)
  | _ => cases hcontinuing

theorem Transition.dealtTo_le (htransition : Transition s e t)
    (hcontinuing : e.isContinuing = true) (id : MessageId) :
    t.dealtTo id ≤ s.dealtTo id + s.claimsFor e id := by
  have hsub : (t.outbox.map Dispatch.record ++ t.owed).Subperm
      ((s.outbox.map Dispatch.record ++ s.owed) ++
        (s.claimed? e).toList.map Attempt.record) := by
    refine List.subperm_ext_iff.2 fun r _ => ?_
    have hdealt := htransition.dealt_le_claims hcontinuing r
    simpa only [Service.dealt, List.count_append] using hdealt
  have hcount := hsub.countP_le fun r => decide (r.id = id)
  simpa only [dealtTo, claimsFor, List.countP_append] using hcount

/-! ## Attempts that are left -/

/-- The attempts that timers and sweeps have left for a message with a live
record. -/
def remaining (s : Service) (id : MessageId) : Nat :=
  if (s.record? id).isSome then s.config.maxAutoResends.toNat + 1 - s.made id
  else 0

/-- A service in the midst of a run from a beginning, over a ledger with every
record under its own id, where no task has lost its stream. -/
structure Steady (s : Service) : Prop where
  separate : s.Separate
  keyed : s.ledger.Keyed
  counted : s.ledger.Counted
  attentive : s.Attentive
  opened : s.FollowsOpen

theorem Steady.step (hs : s.Steady) (hcontinuing : e.isContinuing = true) :
    (s.step e).Steady where
  separate := hs.separate.transition (transition_step s e)
  keyed := (transition_step s e).keyed hs.keyed
  counted := (transition_step s e).counted hs.counted
  attentive := hs.attentive.transition (transition_step s e)
  opened := by
    refine hs.opened.transition hs.attentive ?_ (transition_step s e)
    rintro id rfl
    cases hcontinuing

/-- A message has a live record after an event only if it had one before. -/
theorem Transition.live_before (htransition : Transition s e t)
    (hcontinuing : e.isContinuing = true) (hkeyed : s.ledger.Keyed)
    (hclock : ∀ now, e = .setCalendar now → s.calendar ≤ now)
    (hlive : (t.record? id).isSome = true) : (s.record? id).isSome = true := by
  obtain ⟨r, hr⟩ := Option.isSome_iff_exists.1 hlive
  obtain ⟨hget, hexpiry⟩ := Ledger.find?_eq_some_iff.1 hr
  have hbefore : r.isExpired s.calendar = false := by
    rcases htransition.frames.calendar with hsame | hset
    · rwa [← hsame]
    · rw [Bool.eq_false_iff] at hexpiry ⊢
      exact fun hexpired =>
        hexpiry (Record.isExpired_mono (hclock _ hset) hexpired)
  by_cases happlied : ∃ r', s.Applies e r' ∧ r'.id = id
  · obtain ⟨r', happlies, rfl⟩ := happlied
    cases happlies with
    | register => cases hcontinuing
    | follow task saved cursor seen status r' hhears =>
      have hid : r'.id = cursor.id := hhears.id_eq hkeyed
      have hsome : s.record? r'.id = some r' := by rw [hid, hhears.live]
      change (s.record? r'.id).isSome = true
      rw [hsome]
      rfl
  · have hsame : t.ledger.get? id = s.ledger.get? id :=
      htransition.get?_of_quiet fun r' happlies hid =>
        happlied ⟨r', happlies, hid⟩
    have hfound : s.record? id = some r :=
      Ledger.find?_eq_some_iff.2 ⟨hsame.symm.trans hget, hbefore⟩
    rw [hfound]
    rfl

theorem bound_of_claimed? {a : Attempt} (hcontinuing : e.isContinuing = true)
    (hclaimed : s.claimed? e = some a) : a.bound = .automatic := by
  cases e with
  | wake generation =>
    simp only [claimed?] at hclaimed
    split at hclaimed
    next =>
      split at hclaimed
      next =>
        obtain ⟨_, _, _, _, rfl⟩ := attempt?_eq_some_iff.1 hclaimed
        rfl
      next => cases hclaimed
    next => cases hclaimed
  | resume task saved =>
    simp only [claimed?] at hclaimed
    split at hclaimed
    next =>
      obtain ⟨_, _, _, _, rfl⟩ := attempt?_eq_some_iff.1 hclaimed
      rfl
    next => cases hclaimed
  | resend => cases hcontinuing
  | _ => cases hclaimed

/-- An event takes as many attempts from a message as it claims. -/
theorem Steady.remaining_le (hs : s.Steady)
    (hcontinuing : e.isContinuing = true)
    (hclock : ∀ now, e = .setCalendar now → s.calendar ≤ now)
    (hroom : s.config.maxAutoResends.toNat < UInt32.size - 1) (id : MessageId) :
    (s.step e).remaining id + s.claimsFor e id ≤ s.remaining id := by
  have hconfig : (s.step e).config = s.config := (transition_step s e).config
  cases hclaimed : s.claimed? e with
  | none =>
    simp only [claimsFor, hclaimed, Option.toList_none, List.map_nil,
      List.countP_nil, Nat.add_zero, remaining]
    split
    next hlive =>
      have hbefore :=
        (transition_step s e).live_before hcontinuing hs.keyed hclock hlive
      have hretains : s.Retains id (s.step e) :=
        fun _ => Ledger.contains_of_find? hlive
      have hmade : (s.step e).made id = s.made id := by
        rw [made, made,
          (course_step s e).attempts?_eq hclaimed hs.counted hretains]
      exact Nat.le_of_eq (by rw [if_pos hbefore, hconfig, hmade])
    next => exact Nat.zero_le _
  | some a =>
    have hclaims := claims_step hclaimed
    have hbound := bound_of_claimed? hcontinuing hclaimed
    have hwithin : s.made a.id ≤ s.config.maxAutoResends.toNat := by
      have hwithin := UInt32.le_iff_toNat_le.1 hclaims.within
      rwa [hbound] at hwithin
    have hmade : (s.step e).made id = s.made id + if a.id = id then 1 else 0 :=
      hclaims.made_eq (by rwa [hbound]) id
    have hid : a.record.id = a.id :=
      hs.keyed a.id a.record (Ledger.find?_eq_some_iff.1 hclaims.live).1
    have hone : s.claimsFor e id = if a.id = id then 1 else 0 := by
      simp [claimsFor, hclaimed, hid, List.countP_cons]
    have hlive : a.id = id → (s.record? id).isSome = true := by
      rintro rfl
      rw [hclaims.live]
      rfl
    have hbefore (hlive : ((s.step e).record? id).isSome = true) :
        (s.record? id).isSome = true :=
      (transition_step s e).live_before hcontinuing hs.keyed hclock hlive
    rw [hone]
    simp only [remaining, hconfig, hmade]
    by_cases hsame : a.id = id
    · subst hsame
      simp only [if_true, hlive rfl]
      split <;> omega
    · simp only [hsame, if_false, Nat.add_zero]
      split
      next hafter =>
        exact Nat.le_of_eq (by rw [if_pos (hbefore hafter)])
      next => exact Nat.zero_le _

/-! ## Statuses that wait to be heard -/

/-- Whether a status of a message waits to be heard: by the task that follows
the message, or by one that would begin to follow it. -/
def unheard (s : Service) (id : MessageId) : Bool :=
  match s.subscriptions.get? id with
  | some task =>
    (s.cursor? task).any fun cursor => (s.source.unseen? cursor).isSome
  | none => (s.record? id).isSome && (s.source.current.get? id).isSome

theorem unheard_of_follower {cursor : StatusCursor}
    (hfollower : s.subscriptions.get? id = some task)
    (hcursor : s.cursor? task = some cursor) :
    s.unheard id = (s.source.unseen? cursor).isSome := by
  simp [unheard, hfollower, hcursor]

theorem unheard_of_unfollowed (hfree : s.subscriptions.get? id = none) :
    s.unheard id =
      ((s.record? id).isSome && (s.source.current.get? id).isSome) := by
  simp [unheard, hfree]

/-- What leaves a message followed as it was, by a task that has seen as much,
leaves nothing more to be heard. -/
theorem unheard_mono (hunheard : t.unheard id = true)
    (hfollower : t.subscriptions.get? id = s.subscriptions.get? id)
    (hcursors : ∀ task cursor, s.subscriptions.get? id = some task →
      t.cursor? task = some cursor → s.cursor? task = some cursor ∧
        t.source.unseen? cursor = s.source.unseen? cursor)
    (hlive : (t.record? id).isSome = true → (s.record? id).isSome = true)
    (hcurrent : t.source.current.get? id = s.source.current.get? id) :
    s.unheard id = true := by
  cases hsubscribed : s.subscriptions.get? id with
  | some task =>
    have hfollower' : t.subscriptions.get? id = some task :=
      hfollower.trans hsubscribed
    cases hcursor : t.cursor? task with
    | none => simp [unheard, hfollower', hcursor] at hunheard
    | some cursor =>
      obtain ⟨hbefore, hsame⟩ := hcursors task cursor hsubscribed hcursor
      rw [unheard_of_follower hfollower' hcursor, hsame] at hunheard
      rwa [unheard_of_follower hsubscribed hbefore]
  | none =>
    rw [unheard_of_unfollowed (hfollower.trans hsubscribed), Bool.and_eq_true]
      at hunheard
    rw [unheard_of_unfollowed hsubscribed, Bool.and_eq_true]
    exact ⟨hlive hunheard.1, hcurrent ▸ hunheard.2⟩

/-- So does what leaves the source and the subscriptions alone and gives nobody
a cursor. -/
theorem unheard_of_frames (hunheard : t.unheard id = true)
    (hsubscriptions : t.subscriptions = s.subscriptions)
    (hsource : t.source = s.source)
    (hcursors : ∀ task cursor, t.cursor? task = some cursor →
      s.cursor? task = some cursor)
    (hlive : (t.record? id).isSome = true → (s.record? id).isSome = true) :
    s.unheard id = true := by
  refine unheard_mono hunheard (by rw [hsubscriptions]) ?_ hlive
    (by rw [hsource])
  intro task cursor _ hcursor
  exact ⟨hcursors task cursor hcursor, by rw [hsource]⟩

theorem Separate.unheard_attach (hs : s.Separate) {id' : MessageId}
    (hlive : (s.record? id').isSome = true)
    (hunheard : (s.attach id').unheard id = true) :
    s.unheard id = true := by
  rcases attach_cases s id' with ⟨hsame, _⟩ |
    ⟨stream, _, hfree, hcurrent, hattach⟩
  · rwa [hsame] at hunheard
  · by_cases hid : id = id'
    · subst hid
      rw [unheard_of_unfollowed hfree, hlive, hcurrent]
      rfl
    · rw [hattach] at hunheard
      refine unheard_mono hunheard (by simp [hid]) ?_ (fun hafter => hafter) rfl
      intro task cursor hfollower hcursor
      have hold : task ≠ s.nextTask :=
        Nat.ne_of_lt (hs.numbered.followers id task hfollower)
      have hcursor : (s.spawn (.follow (s.firstCursor id' stream))).cursor?
          task = some cursor :=
        hcursor
      rw [cursor?_spawn, if_neg hold] at hcursor
      exact ⟨hcursor, rfl⟩

theorem Separate.unheard_attachTracked (hs : s.Separate) {id' : MessageId}
    (hunheard : (s.attachTracked id').unheard id = true) :
    s.unheard id = true := by
  unfold Service.attachTracked at hunheard
  split at hunheard
  next hlive => exact hs.unheard_attach hlive hunheard
  next => exact hunheard

theorem Separate.unheard_attachKnown (hs : s.Separate)
    (hunheard : s.attachKnown.unheard id = true) : s.unheard id = true := by
  have hboth : s.attachKnown.Separate ∧
      (s.attachKnown.unheard id = true → s.unheard id = true) :=
    attachKnown_induction ⟨hs, fun hafter => hafter⟩ fun t id' ht =>
      ⟨ht.1.attachTracked id', fun hafter =>
        ht.2 (ht.1.unheard_attachTracked hafter)⟩
  exact hboth.2 hunheard

/-- A report lets at most its own message be heard of. -/
theorem Separate.unheard_report (hs : s.Separate) {id' : MessageId}
    {status : DeliveryStatus} (hother : id ≠ id')
    (hunheard : ({ s with source := s.source.set id' status } : Service).unheard
      id = true) :
    s.unheard id = true := by
  have hcurrent :
      (s.source.set id' status).current.get? id = s.source.current.get? id := by
    rw [StatusSource.current_set, if_neg hother]
  refine unheard_mono hunheard rfl ?_ (fun hafter => hafter) hcurrent
  intro task cursor hfollower hcursor
  have hid : cursor.id = id := hs.own id task cursor hfollower hcursor
  refine ⟨hcursor, ?_⟩
  simp only [StatusSource.unseen?, StatusSource.open?, hid, hcurrent,
    StatusSource.ended_set]

/-- A task that hears of a status and applies it has heard of all that there
was. -/
theorem Steady.heard (hs : s.Steady) {cursor seen : StatusCursor}
    {status : DeliveryStatus} (hhears : s.Hears task cursor seen status r)
    (saved : Bool) :
    s.unheard cursor.id = true ∧
    (s.step (.resume task saved)).unheard cursor.id = false := by
  obtain ⟨stream, hunseen, _, _⟩ :=
    StatusSource.next_eq_changed_iff.1 hhears.sighted
  have hfollows : s.cursor? task = some cursor :=
    cursor?_of_get? hhears.following
  have hid : r.id = cursor.id := hhears.id_eq hs.keyed
  refine ⟨by rw [unheard_of_follower hhears.current hfollows, hunseen]; rfl, ?_⟩
  cases hreceived : status.isReceived with
  | true =>
    have happlies := Applies.follow task saved cursor seen status r hhears
    have hforgotten : (s.step (.resume task saved)).Forgotten cursor.id :=
      hid ▸ happlies.forgotten hreceived
    simp [unheard_of_unfollowed hforgotten.subscription, hforgotten.record?]
  | false =>
    rw [step_of_hears hhears, hreceived]
    have hstays : (s.apply (r.withStatus status) (some task)).subscriptions.get?
        cursor.id =
        some task := by
      simp [subscriptions_apply, Record.withStatus, hreceived, hhears.current]
    have hfollows' :
        ((s.apply (r.withStatus status) (some task)).setRoutine task
        (.save (.follow seen))).cursor? task = some seen := by
      simp
    simp only [Bool.false_eq_true, if_false]
    rw [unheard_of_follower (by simpa using hstays) hfollows']
    simp [StatusSource.unseen?_of_next_eq_changed hhears.sighted]

theorem Steady.unheard_of_applied (hs : s.Steady)
    (hcontinuing : e.isContinuing = true) (happlied : s.applied? e = some id) :
    s.unheard id = true ∧ (s.step e).unheard id = false := by
  obtain ⟨r, happlies, rfl⟩ := applied?_eq_some_iff.1 happlied
  cases happlies with
  | register => cases hcontinuing
  | follow task saved cursor seen status r hhears =>
    have hid : r.id = cursor.id := hhears.id_eq hs.keyed
    change s.unheard r.id = true ∧
      (s.step (.resume task saved)).unheard r.id = false
    rw [hid]
    exact hs.heard hhears saved

theorem unheard_chore {saved : Bool} {old left : Routine}
    (htask : s.tasks.get? task = some old) (hchore : Chore s saved old t left)
    (hunheard : (t.setRoutine task left).unheard id = true)
    (hlive : ((t.setRoutine task left).record? id).isSome = true →
      (s.record? id).isSome = true) : s.unheard id = true := by
  have hcursor : left.cursor? = old.cursor? := by cases hchore <;> simp
  have hsubscriptions : t.subscriptions = s.subscriptions := by
    cases hchore <;> rfl
  have hsource : t.source = s.source := by cases hchore <;> rfl
  have htasks : t.tasks = s.tasks := by cases hchore <;> rfl
  refine unheard_of_frames hunheard (by simpa using hsubscriptions)
    (by simpa using hsource) ?_ hlive
  intro task' cursor hafter
  rw [cursor?_setRoutine] at hafter
  split at hafter
  next hsame => rw [hsame, cursor?_of_get? htask, ← hcursor, hafter]
  next => rwa [cursor?, htasks] at hafter

/-- A status that is applied to a message lets nothing more be heard of another
one. -/
theorem Steady.unheard_restate (hs : s.Steady) {cursor seen : StatusCursor}
    {status : DeliveryStatus} {next : Routine}
    (hhears : s.Hears task cursor seen status r) (hother : id ≠ r.id)
    (hunheard : ((s.apply (r.withStatus status) (some task)).setRoutine task
      next).unheard id = true)
    (hlive : (((s.apply (r.withStatus status) (some task)).setRoutine task
      next).record? id).isSome = true → (s.record? id).isSome = true) :
    s.unheard id = true := by
  have hid : r.id = cursor.id := hhears.id_eq hs.keyed
  refine unheard_mono hunheard ?_ ?_ hlive (by simp)
  · simp only [setRoutine_frame, subscriptions_apply]
    split
    next => exact (Table.get?_erase ..).trans (if_neg hother)
    next => rfl
  · intro task' cursor' hfollower hcursor'
    have hne : task' ≠ task := by
      rintro rfl
      exact hother
        ((hs.separate.single _ _ _ hhears.current hfollower).trans hid.symm)
    rw [cursor?_setRoutine, if_neg hne] at hcursor'
    exact ⟨cursor?_of_apply hcursor', by simp⟩

/-- Nothing is heard any more of a message that is not followed and has no live
record. -/
theorem unheard_drop {id' : MessageId} (hgone : s.record? id' = none)
    (hunheard : ({ s with
      subscriptions := s.subscriptions.erase id' }.setRoutine task
      .stop).unheard id = true)
    (hlive : (({ s with
      subscriptions := s.subscriptions.erase id' }.setRoutine task
      .stop).record? id).isSome = true → (s.record? id).isSome = true) :
    s.unheard id = true := by
  by_cases hsame : id = id'
  · subst hsame
    rw [unheard_of_unfollowed (by simp), Bool.and_eq_true] at hunheard
    have hbefore := hlive hunheard.1
    rw [hgone] at hbefore
    cases hbefore
  · refine unheard_mono hunheard (by simp [hsame]) ?_ hlive (by simp)
    intro task' cursor _ hcursor
    have hbefore := cursor?_of_setRoutine (by rfl) hcursor
    exact ⟨hbefore, by simp⟩

/-- An event that applies nothing to a message and does not report on it lets
nothing more be heard of it. -/
theorem Steady.unheard_before (hs : s.Steady)
    (hcontinuing : e.isContinuing = true)
    (hclock : ∀ now, e = .setCalendar now → s.calendar ≤ now)
    (hquiet : s.applied? e ≠ some id) (hunreported : e.reported? ≠ some id)
    (hunheard : (s.step e).unheard id = true) : s.unheard id = true := by
  have htransition := transition_step s e
  have hlive (hafter : ((s.step e).record? id).isSome = true) :
      (s.record? id).isSome = true :=
    htransition.live_before hcontinuing hs.keyed hclock hafter
  generalize s.step e = t at hunheard htransition hlive
  cases htransition with
  | idle => exact hunheard
  | report id' status =>
    refine hs.separate.unheard_report ?_ hunheard
    rintro rfl
    exact hunreported rfl
  | setNode | pass | setCalendar | lapse | exhaust =>
    exact unheard_of_frames hunheard rfl rfl (fun _ _ hcursor => hcursor) hlive
  | refuse | sweep =>
    exact unheard_of_frames hunheard rfl rfl
      (fun _ _ hcursor => cursor?_of_spawn rfl hcursor) hlive
  | fire generation sleeper r claimed _ _ _ _ hclaim =>
    obtain ⟨_, _, _, _, rfl⟩ := claim_eq_some_iff.1 hclaim
    exact unheard_of_frames hunheard rfl rfl
      (fun _ _ hcursor => cursor?_of_spawn rfl hcursor) hlive
  | catchUp task saved id rest resent watching r claimed _ _ hclaim =>
    obtain ⟨_, _, _, _, rfl⟩ := claim_eq_some_iff.1 hclaim
    refine unheard_of_frames hunheard (by simp) (by simp) ?_ hlive
    intro task' cursor hcursor
    have hbefore := cursor?_of_setRoutine (by rfl) hcursor
    exact hbefore
  | chore task saved old left u htask _ hchore =>
    exact unheard_chore htask hchore hunheard hlive
  | restate task saved cursor seen status r hhears =>
    refine hs.unheard_restate hhears ?_ hunheard hlive
    rintro rfl
    exact hquiet (applied?_eq_some_iff.2
      ⟨r.withStatus status,
        .follow task saved cursor seen status r hhears, rfl⟩)
  | drop task saved cursor htask hcurrent hover =>
    refine unheard_drop ?_ hunheard hlive
    rcases hover with hclosed | hgone
    · have hopen := hs.opened task cursor (cursor?_of_get? htask)
      rw [(StatusSource.next_eq_closed_iff.1 hclosed).2.1] at hopen
      cases hopen
    · exact hgone
  | leave task saved cursor =>
    exact unheard_of_frames hunheard (by simp) (by simp)
      (fun _ _ hcursor => cursor?_of_setRoutine rfl hcursor) hlive
  | hear task saved position heard id' htask =>
    refine hs.separate.unheard_attachTracked
      (unheard_of_frames hunheard (by simp) (by simp)
      (fun _ _ hcursor => cursor?_of_setRoutine rfl hcursor) ?_)
    simp [record?]
  | rescan task saved position heard count htask =>
    refine hs.separate.unheard_attachKnown
      (unheard_of_frames hunheard (by simp) (by simp)
      (fun _ _ hcursor => cursor?_of_setRoutine rfl hcursor) ?_)
    simp [record?]
  | _ => cases hcontinuing

/-! ## What one event leaves -/

/-- How often a status may still be applied to a message, as far as what is
there goes: for every attempt that is left, for every message that was handed
over or is about to be, and for what waits to be heard. -/
def outlook (s : Service) (id : MessageId) : Nat :=
  s.remaining id + s.dealtTo id + (s.unheard id).toNat

/-- A status that is applied takes something from the outlook, and only a report
adds to it. -/
theorem Steady.outlook_step (hs : s.Steady)
    (hcontinuing : e.isContinuing = true)
    (hclock : ∀ now, e = .setCalendar now → s.calendar ≤ now)
    (hroom : s.config.maxAutoResends.toNat < UInt32.size - 1) (id : MessageId) :
    (s.step e).outlook id + (s.applied? e).toList.count id ≤
      s.outlook id + e.reported?.toList.count id := by
  have hdealt := (transition_step s e).dealtTo_le hcontinuing id
  have hremaining := hs.remaining_le hcontinuing hclock hroom id
  have hunheard :
      ((s.step e).unheard id).toNat + (s.applied? e).toList.count id ≤
      (s.unheard id).toNat + e.reported?.toList.count id := by
    by_cases happlied : s.applied? e = some id
    · obtain ⟨hbefore, hafter⟩ := hs.unheard_of_applied hcontinuing happlied
      simp [happlied, hbefore, hafter]
    · have hnone : (s.applied? e).toList.count id = 0 :=
        List.count_eq_zero.2 fun hmem => happlied (Option.mem_toList.1 hmem)
      by_cases hreported : e.reported? = some id
      · have hatMost := Bool.toNat_le ((s.step e).unheard id)
        simp only [hnone, hreported, Option.toList_some,
          List.count_singleton_self]
        omega
      · have hbefore := hs.unheard_before hcontinuing hclock happlied hreported
        rw [hnone, Nat.add_zero]
        refine Nat.le_trans ?_ (Nat.le_add_right _ _)
        cases hafter : (s.step e).unheard id with
        | true => simp [hbefore hafter]
        | false => exact Nat.zero_le _
  simp only [outlook]
  omega

/-- A timer whose time comes goes, whether or not an attempt is left. -/
theorem scheduler_wake {generation : Nat} {sleeper : Sleeper}
    (hsleeper : s.scheduler.sleepers.get? generation = some sleeper)
    (hdue : sleeper.due ≤ s.clock) (hrunning : s.shutDown = false)
    (hcurrent : s.scheduler.isCurrent sleeper.id generation = true) :
    (s.step (.wake generation)).scheduler =
      (s.woken generation sleeper.id).scheduler := by
  have hstill : (s.scheduler.wake generation).isCurrent sleeper.id generation =
      true := hcurrent
  simp only [step, wake, hsleeper, if_pos hdue, fire, hrunning, hstill,
    Bool.not_true, Bool.or_self, Bool.false_eq_true, if_false]
  split
  next => rfl
  next r claimed hclaim =>
    obtain ⟨_, _, _, _, rfl⟩ := claim_eq_some_iff.1 hclaim
    rfl

theorem Steady.isArmed_of_fired (hs : s.Steady)
    (hfired : s.fired? e = some id) :
    s.scheduler.isArmed id = true ∧
    (s.step e).scheduler.isArmed id = false := by
  cases e with
  | wake generation =>
    simp only [fired?] at hfired
    split at hfired
    next sleeper hsleeper =>
      split at hfired
      next hdue =>
        cases hfired
        obtain ⟨hrunning, hcurrent⟩ := hs.separate.isCurrent hsleeper
        obtain ⟨delay, harmed⟩ := Scheduler.isCurrent_iff.1 hcurrent
        refine ⟨by simp [Scheduler.isArmed, Table.contains_eq, harmed], ?_⟩
        rw [scheduler_wake hsleeper hdue hrunning hcurrent]
        simp [Scheduler.isArmed, Table.contains_eq, woken,
          Scheduler.timers_complete_wake hcurrent]
      next => cases hfired
    next => cases hfired
  | _ => cases hfired

/-- A timer that fires is armed no more, and only a status that is applied arms
one. -/
theorem Steady.isArmed_step (hs : s.Steady) (e : Event) (id : MessageId) :
    ((s.step e).scheduler.isArmed id).toNat + (s.fired? e).toList.count id ≤
      (s.scheduler.isArmed id).toNat + (s.applied? e).toList.count id := by
  by_cases hfired : s.fired? e = some id
  · obtain ⟨hbefore, hafter⟩ := hs.isArmed_of_fired hfired
    simp [hfired, hbefore, hafter]
  · have hnone : (s.fired? e).toList.count id = 0 :=
      List.count_eq_zero.2 fun hmem => hfired (Option.mem_toList.1 hmem)
    by_cases happlied : s.applied? e = some id
    · have hatMost := Bool.toNat_le ((s.step e).scheduler.isArmed id)
      simp only [hnone, happlied, Option.toList_some, List.count_singleton_self]
      omega
    · have hquiet : ∀ r, s.Applies e r → r.id ≠ id := fun r happlies hid =>
        happlied (applied?_eq_some_iff.2 ⟨r, happlies, hid⟩)
      rw [hnone, Nat.add_zero]
      refine Nat.le_trans ?_ (Nat.le_add_right _ _)
      simp only [Scheduler.isArmed, Table.contains_eq]
      rcases (transition_step s e).timers_of_quiet hquiet with hsame | hgone
      · exact Nat.le_of_eq (by rw [hsame])
      · simp [hgone]

/-- Where no status is applied and no timer fires, timers and what waits for
them stay. -/
theorem Steady.scheduler_of_quiet (hs : s.Steady)
    (hcontinuing : e.isContinuing = true) (happlied : s.applied? e = none)
    (hfired : s.fired? e = none) :
    (s.step e).scheduler = s.scheduler := by
  have htransition := transition_step s e
  generalize s.step e = t at htransition
  cases htransition with
  | lapse generation sleeper hsleeper hstale =>
    obtain ⟨hrunning, hcurrent⟩ := hs.separate.isCurrent hsleeper
    rw [hrunning, hcurrent] at hstale
    simp at hstale
  | exhaust generation sleeper hsleeper hdue =>
    simp [fired?, hsleeper, hdue] at hfired
  | fire generation sleeper r claimed hsleeper hdue =>
    simp [fired?, hsleeper, hdue] at hfired
  | catchUp task saved id rest resent watching r claimed _ _ hclaim =>
    obtain ⟨_, _, _, _, rfl⟩ := claim_eq_some_iff.1 hclaim
    simp
  | chore task saved old left u _ _ hchore => cases hchore <;> simp
  | restate task saved cursor seen status r hhears =>
    have hsome : s.applied? (.resume task saved) = some r.id :=
      applied?_eq_some_iff.2 ⟨r.withStatus status,
        .follow task saved cursor seen status r hhears, rfl⟩
    rw [hsome] at happlied
    cases happlied
  | drop | leave | hear | rescan => simp
  | _ => first | rfl | cases hcontinuing
end Service

end Redelivery
