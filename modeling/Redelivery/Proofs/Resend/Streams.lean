import Redelivery.Resend.StatusSource
import Redelivery.Table.Lemmas

/-!
# Streams and cursors

What a cursor finds depends on the stream that it follows and on the version it
has seen last.  A stream keeps its number after it has ended, and no later
stream gets the same number, so a cursor never mistakes a new stream of its
message for the one it follows.
-/

namespace Redelivery.StatusSource

variable {s : StatusSource} {c c' : StatusCursor} {id : MessageId}
  {status : DeliveryStatus}

/-- The stream that a cursor follows, whether or not it has ended. -/
def stream? (s : StatusSource) (c : StatusCursor) : Option StatusStream :=
  s.open? c <|> s.ended.get? c.stream

theorem unseen?_eq (s : StatusSource) (c : StatusCursor) :
    s.unseen? c = (s.stream? c).filter fun stream =>
      c.seen != some stream.version := rfl

theorem unseen?_eq_some_iff {stream : StatusStream} :
    s.unseen? c = some stream ↔
      s.stream? c = some stream ∧ c.seen ≠ some stream.version := by
  rw [unseen?_eq, Option.filter_eq_some_iff, bne_iff_ne]

theorem open?_eq_some_iff {stream : StatusStream} :
    s.open? c = some stream ↔
      s.current.get? c.id = some stream ∧ stream.number = c.stream := by
  simp [open?, Option.filter_eq_some_iff]

theorem stream?_of_open? {stream : StatusStream}
    (hopen : s.open? c = some stream) :
    s.stream? c = some stream := by
  simp [stream?, hopen]

/-! ## What a cursor finds -/

theorem next_of_unseen? {stream : StatusStream}
    (hunseen : s.unseen? c = some stream) :
    s.next c = (.changed stream.status,
      { c with seen := some stream.version }) := by
  simp [next, markSeen, hunseen]

theorem next_eq_changed_iff :
    s.next c = (.changed status, c') ↔
      ∃ stream, s.unseen? c = some stream ∧ stream.status = status ∧
        c' = { c with seen := some stream.version } := by
  cases hunseen : s.unseen? c with
  | none =>
    simp only [next, hunseen, reduceCtorEq, false_and, exists_false, iff_false]
    split <;> simp
  | some stream =>
    rw [next_of_unseen? hunseen]
    simp [eq_comm]

theorem next_eq_closed_iff :
    s.next c = (.closed, c') ↔
      s.unseen? c = none ∧ s.open? c = none ∧ c' = c := by
  cases hunseen : s.unseen? c with
  | none =>
    cases hopen : s.open? c with
    | none => simp [next, hunseen, hopen, eq_comm]
    | some stream => simp [next, hunseen, hopen]
  | some stream =>
    rw [next_of_unseen? hunseen]
    simp

theorem next_eq_unchanged_iff :
    s.next c = (.unchanged, c') ↔
      s.unseen? c = none ∧ (s.open? c).isSome = true ∧ c' = c := by
  cases hunseen : s.unseen? c with
  | none =>
    cases hopen : s.open? c with
    | none => simp [next, hunseen, hopen]
    | some stream => simp [next, hunseen, hopen, eq_comm]
  | some stream =>
    rw [next_of_unseen? hunseen]
    simp

/-- Looking leaves a cursor on the stream that it follows. -/
theorem id_of_next_eq_changed (hnext : s.next c = (.changed status, c')) :
    c'.id = c.id ∧ c'.stream = c.stream := by
  obtain ⟨stream, _, _, rfl⟩ := next_eq_changed_iff.1 hnext
  exact ⟨rfl, rfl⟩

theorem open?_of_next_eq_changed (hnext : s.next c = (.changed status, c')) :
    s.open? c' = s.open? c := by
  obtain ⟨hid, hstream⟩ := id_of_next_eq_changed hnext
  simp only [open?, hid, hstream]

/-! ## Reports and removals -/

/-- The sources that reports and removals lead to. -/
inductive Arises : StatusSource → Prop
  | empty : Arises .empty
  | set {s : StatusSource} (id : MessageId) (status : DeliveryStatus)
      (hs : Arises s) :
      Arises (s.set id status)
  | remove {s : StatusSource} (id : MessageId) (hs : Arises s) :
      Arises (s.remove id)

/-- Every stream has a number of its own, and keeps it when it ends. -/
structure Sound (s : StatusSource) : Prop where
  numbered : ∀ id stream, s.current.get? id = some stream →
    stream.number < s.nextStream
  finished : ∀ number stream, s.ended.get? number = some stream →
    number < s.nextStream
  distinct : ∀ id id' stream stream', s.current.get? id = some stream →
    s.current.get? id' = some stream' →
    stream.number = stream'.number → id = id'
  apart : ∀ id stream, s.current.get? id = some stream →
    s.ended.get? stream.number = none

def reported (s : StatusSource) (id : MessageId) (status : DeliveryStatus) :
    StatusStream :=
  match s.current.get? id with
  | some stream => { stream with status, version := stream.version + 1 }
  | none => ⟨s.nextStream, status, 0⟩

theorem current_set (s : StatusSource) (id : MessageId)
    (status : DeliveryStatus) (id' : MessageId) :
    (s.set id status).current.get? id' =
      if id' = id then some (s.reported id status) else s.current.get? id' := by
  unfold set reported
  cases s.current.get? id <;> exact Table.get?_insert _ _ _ _

@[simp]
theorem ended_set (s : StatusSource) (id : MessageId)
    (status : DeliveryStatus) :
    (s.set id status).ended = s.ended := by
  unfold set
  split <;> rfl

theorem nextStream_le_set (s : StatusSource) (id : MessageId)
    (status : DeliveryStatus) :
    s.nextStream ≤ (s.set id status).nextStream := by
  unfold set
  split
  next => exact Nat.le_refl _
  next => exact Nat.le_succ _

@[simp]
theorem current_remove (s : StatusSource) (id id' : MessageId) :
    (s.remove id).current.get? id' =
      if id' = id then none else s.current.get? id' := by
  unfold remove
  split
  next => exact Table.get?_erase s.current id id'
  next hnone =>
    split
    next same => rw [same, hnone]
    next => rfl

theorem ended_remove (s : StatusSource) (id : MessageId) (number : Nat) :
    (s.remove id).ended.get? number =
      match s.current.get? id with
      | some stream =>
        if number = stream.number then some stream else s.ended.get? number
      | none => s.ended.get? number := by
  unfold remove
  cases s.current.get? id with
  | none => rfl
  | some stream => exact Table.get?_insert _ _ _ _

@[simp]
theorem nextStream_remove (s : StatusSource) (id : MessageId) :
    (s.remove id).nextStream = s.nextStream := by
  unfold remove
  split <;> rfl

theorem sound_empty : StatusSource.empty.Sound where
  numbered := by
    intro id stream hstream
    simp [empty] at hstream
  finished := by
    intro number stream hstream
    simp [empty] at hstream
  distinct := by
    intro id id' stream stream' hstream
    simp [empty] at hstream
  apart := by
    intro id stream hstream
    simp [empty] at hstream

/-- A report goes on with a stream or takes a number that no stream has. -/
theorem number_reported (s : StatusSource) (id : MessageId)
    (status : DeliveryStatus) :
    (∃ stream, s.current.get? id = some stream ∧
      (s.reported id status).number = stream.number ∧
      (s.set id status).nextStream = s.nextStream) ∨
    (s.current.get? id = none ∧ (s.reported id status).number = s.nextStream ∧
      (s.set id status).nextStream = s.nextStream + 1) := by
  unfold reported set
  cases hcurrent : s.current.get? id with
  | none => exact .inr ⟨rfl, rfl, rfl⟩
  | some stream => exact .inl ⟨stream, rfl, rfl, rfl⟩

theorem Sound.set (hs : s.Sound) (id : MessageId) (status : DeliveryStatus) :
    (s.set id status).Sound := by
  have hgrows := nextStream_le_set s id status
  have hreported := number_reported s id status
  refine ⟨?_, ?_, ?_, ?_⟩
  · intro id' stream' hstream'
    rw [current_set] at hstream'
    split at hstream'
    next =>
      cases hstream'
      rcases hreported with ⟨stream, hstream, hnumber, hnext⟩ |
        ⟨_, hnumber, hnext⟩
      · rw [hnumber, hnext]
        exact hs.numbered id stream hstream
      · omega
    next => exact Nat.lt_of_lt_of_le (hs.numbered id' stream' hstream') hgrows
  · intro number stream hended
    rw [ended_set] at hended
    exact Nat.lt_of_lt_of_le (hs.finished number stream hended) hgrows
  · have hothers : ∀ id' stream', id' ≠ id → s.current.get? id' = some stream' →
        stream'.number ≠ (s.reported id status).number := by
      intro id' stream' hother hstream' hsame
      rcases hreported with ⟨stream, hstream, hnumber, _⟩ | ⟨_, hnumber, _⟩
      · exact hother
          (hs.distinct id' id stream' stream hstream' hstream (by omega))
      · have hlt := hs.numbered id' stream' hstream'
        omega
    intro first second stream stream' hfirst hsecond hsame
    rw [current_set] at hfirst hsecond
    split at hfirst
    next hid =>
      cases hfirst
      split at hsecond
      next hid' => rw [hid, hid']
      next hother =>
        exact absurd hsame.symm (hothers second stream' hother hsecond)
    next hother =>
      split at hsecond
      next =>
        cases hsecond
        exact absurd hsame (hothers first stream hother hfirst)
      next => exact hs.distinct first second stream stream' hfirst hsecond hsame
  · intro id' stream' hstream'
    rw [ended_set]
    rw [current_set] at hstream'
    split at hstream'
    next =>
      cases hstream'
      rcases hreported with ⟨stream, hstream, hnumber, _⟩ | ⟨_, hnumber, _⟩
      · rw [hnumber]
        exact hs.apart id stream hstream
      · rw [hnumber]
        cases hended : s.ended.get? s.nextStream with
        | none => rfl
        | some stream =>
          exact absurd (hs.finished _ stream hended) (Nat.lt_irrefl _)
    next => exact hs.apart id' stream' hstream'

theorem Sound.remove (hs : s.Sound) (id : MessageId) : (s.remove id).Sound := by
  cases hcurrent : s.current.get? id with
  | none =>
    have hsame : s.remove id = s := by simp [StatusSource.remove, hcurrent]
    rw [hsame]
    exact hs
  | some removed =>
    have hended : ∀ number, (s.remove id).ended.get? number =
        if number = removed.number then some removed
        else s.ended.get? number := by
      intro number
      rw [ended_remove, hcurrent]
    refine ⟨?_, ?_, ?_, ?_⟩
    · intro id' stream hstream
      rw [current_remove] at hstream
      split at hstream
      next => cases hstream
      next =>
        rw [nextStream_remove]
        exact hs.numbered id' stream hstream
    · intro number stream hnumber
      rw [nextStream_remove]
      rw [hended] at hnumber
      split at hnumber
      next same =>
        rw [same]
        exact hs.numbered id removed hcurrent
      next => exact hs.finished number stream hnumber
    · intro first second stream stream' hfirst hsecond
      rw [current_remove] at hfirst hsecond
      split at hfirst
      next => cases hfirst
      next =>
        split at hsecond
        next => cases hsecond
        next => exact hs.distinct first second stream stream' hfirst hsecond
    · intro id' stream hstream
      rw [current_remove] at hstream
      split at hstream
      next => cases hstream
      next hother =>
        have hnumber : stream.number ≠ removed.number := fun same =>
          hother (hs.distinct id' id stream removed hstream hcurrent same)
        rw [hended, if_neg hnumber]
        exact hs.apart id' stream hstream

/-! ## Cursors stay on their streams -/

theorem lt_nextStream_of_stream? (hs : s.Sound) {stream : StatusStream}
    (hstream : s.stream? c = some stream) : c.stream < s.nextStream := by
  unfold stream? at hstream
  cases hopen : s.open? c with
  | none =>
    rw [hopen] at hstream
    exact hs.finished c.stream stream hstream
  | some current =>
    obtain ⟨hcurrent, hnumber⟩ := open?_eq_some_iff.1 hopen
    rw [← hnumber]
    exact hs.numbered c.id current hcurrent

/-- A report goes to the open stream of its message and to no other. -/
theorem open?_set (hold : c.stream < s.nextStream) (id : MessageId)
    (status : DeliveryStatus) :
    (s.set id status).open? c =
      if c.id = id then
        (s.open? c).map fun stream =>
          { stream with status, version := stream.version + 1 }
      else s.open? c := by
  unfold open?
  rw [current_set]
  split
  next hid =>
    rw [hid]
    unfold reported
    cases hcurrent : s.current.get? id with
    | none =>
      have hother : ¬ s.nextStream = c.stream := by omega
      simp [Option.filter, hother]
    | some stream =>
      by_cases hnumber : stream.number = c.stream
      · simp [Option.filter, hnumber]
      · simp [Option.filter, hnumber]
  next => rfl

/-- What a report does to the stream that a cursor follows. -/
theorem stream?_set (hs : s.Sound) {stream : StatusStream}
    (hstream : s.stream? c = some stream) (id : MessageId)
    (status : DeliveryStatus) :
    (s.set id status).stream? c = some stream ∨
      (c.id = id ∧ (s.set id status).stream? c =
        some { stream with status, version := stream.version + 1 }) := by
  have hopens := open?_set (lt_nextStream_of_stream? hs hstream) id status
  unfold stream? at hstream ⊢
  rw [hopens, ended_set]
  split
  next hid =>
    cases hopen : s.open? c with
    | none =>
      rw [hopen] at hstream
      exact .inl hstream
    | some current =>
      rw [hopen] at hstream
      cases hstream
      exact .inr ⟨hid, rfl⟩
  next => exact .inl hstream

theorem open?_remove (s : StatusSource) (id : MessageId) (c : StatusCursor) :
    (s.remove id).open? c = if c.id = id then none else s.open? c := by
  unfold open?
  rw [current_remove]
  split <;> rfl

/-- A stream that ends is found as it was. -/
theorem stream?_remove (hs : s.Sound) {stream : StatusStream}
    (hstream : s.stream? c = some stream) (id : MessageId) :
    (s.remove id).stream? c = some stream := by
  unfold stream? at hstream ⊢
  rw [open?_remove, ended_remove]
  cases hopen : s.open? c with
  | some current =>
    rw [hopen] at hstream
    cases hstream
    obtain ⟨hcurrent, hnumber⟩ := open?_eq_some_iff.1 hopen
    split
    next hid =>
      rw [← hid, hcurrent]
      simp [hnumber]
    next => rfl
  | none =>
    rw [hopen] at hstream
    have hended : s.ended.get? c.stream = some stream := hstream
    have hkept : (match s.current.get? id with
        | some removed => if c.stream = removed.number then some removed
          else s.ended.get? c.stream
        | none => s.ended.get? c.stream) = some stream := by
      split
      next removed hremoved =>
        have hnumber : c.stream ≠ removed.number := by
          intro same
          rw [same, hs.apart id removed hremoved] at hended
          cases hended
        rw [if_neg hnumber, hended]
      next => exact hended
    rw [hkept]
    split <;> rfl

/-- The stream of a cursor is known, and has not been seen further than it
goes. -/
def Tracks (s : StatusSource) (c : StatusCursor) : Prop :=
  ∃ stream, s.stream? c = some stream ∧ ∀ version, c.seen = some version →
    version ≤ stream.version

theorem Tracks.set (hc : s.Tracks c) (hs : s.Sound) (id : MessageId)
    (status : DeliveryStatus) :
    (s.set id status).Tracks c := by
  obtain ⟨stream, hstream, hseen⟩ := hc
  rcases stream?_set hs hstream id status with hsame | ⟨_, hlater⟩
  · exact ⟨stream, hsame, hseen⟩
  · exact ⟨_, hlater, fun version hversion =>
      Nat.le_succ_of_le (hseen version hversion)⟩

theorem Tracks.remove (hc : s.Tracks c) (hs : s.Sound) (id : MessageId) :
    (s.remove id).Tracks c := by
  obtain ⟨stream, hstream, hseen⟩ := hc
  exact ⟨stream, stream?_remove hs hstream id, hseen⟩

/-- A cursor that has just sighted a status has seen its stream as far as it
goes. -/
theorem tracks_of_next (hnext : s.next c = (.changed status, c')) :
    s.Tracks c' := by
  obtain ⟨stream, hunseen, _, rfl⟩ := next_eq_changed_iff.1 hnext
  rw [unseen?_eq, Option.filter_eq_some_iff] at hunseen
  refine ⟨stream, hunseen.1, ?_⟩
  rintro version ⟨⟩
  exact Nat.le_refl _

def Delivers (s : StatusSource) (c : StatusCursor) : Prop :=
  ∃ stream, s.unseen? c = some stream ∧ stream.status.isReceived = true

/-- A report on a stream that a cursor tracks is one that it has not seen. -/
theorem Tracks.unseen_later (hc : s.Tracks c) {stream : StatusStream}
    (hstream : s.stream? c = some stream) :
    c.seen ≠ some (stream.version + 1) := by
  obtain ⟨stream', hstream', hseen⟩ := hc
  rw [hstream] at hstream'
  cases hstream'
  intro hlatest
  exact absurd (hseen _ hlatest) (Nat.not_succ_le_self _)

theorem Tracks.delivers_of_open? (hc : s.Tracks c) (hs : s.Sound)
    (hopen : (s.open? c).isSome = true) (hreceived : status.isReceived = true) :
    (s.set c.id status).Delivers c := by
  obtain ⟨stream, hstream⟩ := Option.isSome_iff_exists.1 hopen
  have hbefore := stream?_of_open? hstream
  have hafter := open?_set (lt_nextStream_of_stream? hs hbefore) c.id status
  rw [if_pos rfl, hstream] at hafter
  have hsight :=
    unseen?_eq_some_iff.2 ⟨stream?_of_open? hafter, hc.unseen_later hbefore⟩
  exact ⟨_, hsight, hreceived⟩

/-- Only another status of the message hides a delivery. -/
theorem Delivers.set (hc : s.Delivers c) (hs : s.Sound) (htracks : s.Tracks c)
    {id : MessageId} (hclear : c.id = id → status.isReceived = true) :
    (s.set id status).Delivers c := by
  obtain ⟨stream, hsight, hreceived⟩ := hc
  obtain ⟨hstream, hunseen⟩ := unseen?_eq_some_iff.1 hsight
  rcases stream?_set hs hstream id status with hsame | ⟨hid, hlater⟩
  · exact ⟨stream, unseen?_eq_some_iff.2 ⟨hsame, hunseen⟩, hreceived⟩
  · exact ⟨_, unseen?_eq_some_iff.2 ⟨hlater, htracks.unseen_later hstream⟩,
      hclear hid⟩

theorem Delivers.remove (hc : s.Delivers c) (hs : s.Sound) (id : MessageId) :
    (s.remove id).Delivers c := by
  obtain ⟨stream, hsight, hreceived⟩ := hc
  obtain ⟨hstream, hunseen⟩ := unseen?_eq_some_iff.1 hsight
  have hkept := stream?_remove hs hstream id
  exact ⟨stream, unseen?_eq_some_iff.2 ⟨hkept, hunseen⟩, hreceived⟩

/-- Somebody begins to follow the current stream of a message. -/
def Begins (s : StatusSource) (c : StatusCursor) : Prop :=
  ∃ stream, s.current.get? c.id = some stream ∧ stream.number = c.stream ∧
    (c.seen = none ∨ c.seen = some stream.version)

theorem Begins.tracks (hc : s.Begins c) : s.Tracks c := by
  obtain ⟨stream, hcurrent, hnumber, hseen⟩ := hc
  refine ⟨stream,
    stream?_of_open? (open?_eq_some_iff.2 ⟨hcurrent, hnumber⟩), ?_⟩
  intro version hversion
  rcases hseen with hnone | hlatest
  · rw [hnone] at hversion
    cases hversion
  · rw [hlatest] at hversion
    cases hversion
    exact Nat.le_refl _

theorem Arises.sound (hs : s.Arises) : s.Sound := by
  induction hs with
  | empty => exact sound_empty
  | set id status _ ih => exact ih.set id status
  | remove id _ ih => exact ih.remove id

end Redelivery.StatusSource
