import Redelivery.Proofs.Binary.Rereading
import Redelivery.Proofs.Ledger.Format
import Redelivery.Proofs.Ledger.Lookup

/-!
# Pruning

What has expired at a time has expired at every later one, so pruning twice is
pruning once, at the later time.  A ledger that was read from a file is read
back after it was pruned and written, however long the file was.
-/

namespace Redelivery

theorem Record.isExpired_max (r : Record) (first later : UInt64) :
    r.isExpired (max first later) =
      (r.isExpired first || r.isExpired later) := by
  have hmax : (max first later).toNat = max first.toNat later.toNat := by
    by_cases hle : first ≤ later
    · have hlater : max first later = later := if_pos hle
      rw [hlater]
      exact (Nat.max_eq_right hle).symm
    · have hfirst : max first later = first := if_neg hle
      rw [hfirst]
      exact (Nat.max_eq_left (Nat.le_of_not_le hle)).symm
  simp only [isExpired, UInt64.lt_iff_toNat_lt, hmax, ← Bool.decide_or]
  exact decide_eq_decide.2 (by omega)

theorem Record.isExpired_eq_false_iff {r : Record} {now : UInt64} :
    r.isExpired now = false ↔ now ≤ r.expiresAt := by
  rw [isExpired, decide_eq_false_iff_not, UInt64.not_lt]

namespace Ledger

variable {l : Ledger} {id : MessageId} {r : Record} {now : UInt64}

/-! ## What is left -/

/-- The records whose life is not over stay as they are, and no others do. -/
theorem get?_prune_eq_some_iff :
    (l.prune now).get? id = some r ↔
      l.get? id = some r ∧ now ≤ r.expiresAt := by
  rw [get?_prune, find?_eq_some_iff, Record.isExpired_eq_false_iff]

/-- The counters of messages that still have a record stay as they are, and no
others do. -/
theorem attempts?_prune_eq_some_iff {n : UInt32} :
    (l.prune now).attempts? id = some n ↔
      l.attempts? id = some n ∧ (l.prune now).contains id = true := by
  rw [attempts?_prune, Option.filter_eq_some_iff, contains_eq, get?_prune]

theorem attempts?_prune_of_le (hr : l.get? id = some r)
    (halive : now ≤ r.expiresAt) :
    (l.prune now).attempts? id = l.attempts? id := by
  rw [attempts?_prune,
    find?_eq_some_iff.2 ⟨hr, Record.isExpired_eq_false_iff.2 halive⟩]
  cases l.attempts? id <;> rfl

/-! ## Pruning twice -/

theorem find?_prune_max (l : Ledger) (first later : UInt64) (id : MessageId) :
    (l.prune first).find? later id = l.find? (max first later) id := by
  rw [find?, get?_prune, find?, find?, Option.filter_filter]
  refine congrArg (fun test => Option.filter test (l.get? id))
    (funext fun r => ?_)
  rw [Record.isExpired_max, Bool.not_or, Bool.and_comm]

theorem find?_of_max {first later : UInt64}
    (hfound : (l.find? (max first later) id).isSome = true) :
    (l.find? first id).isSome = true := by
  obtain ⟨r, hr⟩ := Option.isSome_iff_exists.1 hfound
  obtain ⟨hget, hlive⟩ := find?_eq_some_iff.1 hr
  rw [Record.isExpired_max, Bool.or_eq_false_iff] at hlive
  exact Option.isSome_iff_exists.2 ⟨r, find?_eq_some_iff.2 ⟨hget, hlive.1⟩⟩

/-- Look-ups determine a ledger. -/
theorem ext_of_lookups {l l' : Ledger} (hrecords : ∀ id, l.get? id = l'.get? id)
    (hattempts : ∀ id, l.attempts? id = l'.attempts? id) : l = l' := by
  cases l
  cases l'
  rw [mk.injEq]
  exact ⟨Table.ext hrecords, Table.ext hattempts⟩

/-- Pruning twice is pruning once, at the later time. -/
theorem prune_prune (l : Ledger) (first later : UInt64) :
    (l.prune first).prune later = l.prune (max first later) := by
  refine ext_of_lookups (fun id => ?_) fun id => ?_
  · rw [get?_prune, get?_prune, find?_prune_max]
  · rw [attempts?_prune, attempts?_prune, attempts?_prune, find?_prune_max,
      Option.filter_filter]
    refine congrArg (fun test => Option.filter test (l.attempts? id))
      (funext fun _ => ?_)
    rw [Bool.eq_iff_iff, Bool.and_eq_true]
    exact and_iff_right_of_imp find?_of_max

theorem size_prune_le (l : Ledger) (now : UInt64) :
    (l.prune now).size ≤ l.size :=
  List.length_filter_le _ _

theorem expiredCount_add_size (l : Ledger) (now : UInt64) :
    l.expiredCount now + (l.prune now).size = l.size :=
  Nat.sub_add_cancel (l.size_prune_le now)

/-- If no record is dropped by pruning, all stay as they are. -/
theorem get?_prune_of_expiredCount (hnone : l.expiredCount now = 0)
    (id : MessageId) :
    (l.prune now).get? id = l.get? id := by
  have hsize : (l.prune now).size = l.size := by
    have hsum := l.expiredCount_add_size now
    omega
  have hentries : (l.prune now).records.entries = l.records.entries :=
    List.filter_sublist.eq_of_length hsize
  rw [get?, Table.get?, hentries]
  rfl

/-- What is dropped by pruning twice is counted together. -/
theorem expiredCount_prune (l : Ledger) (first later : UInt64) :
    l.expiredCount first + (l.prune first).expiredCount later =
      l.expiredCount (max first later) := by
  have hfirst := l.expiredCount_add_size first
  have hlater := (l.prune first).expiredCount_add_size later
  have hboth := l.expiredCount_add_size (max first later)
  rw [prune_prune] at hlater
  omega

/-- Pruning takes away what has expired and nothing else; pruning twice is
pruning once, at the later time. -/
structure Prunes (l : Ledger) (first later : UInt64) : Prop where
  composed : (l.prune first).prune later = l.prune (max first later)
  counted : l.expiredCount first + (l.prune first).expiredCount later =
    l.expiredCount (max first later)
  records : ∀ id r, (l.prune first).get? id = some r ↔
    l.get? id = some r ∧ first ≤ r.expiresAt
  counters : ∀ id n, (l.prune first).attempts? id = some n ↔
    l.attempts? id = some n ∧ (l.prune first).contains id = true

theorem prunes (l : Ledger) (first later : UInt64) : l.Prunes first later where
  composed := l.prune_prune first later
  counted := l.expiredCount_prune first later
  records := fun _ _ => get?_prune_eq_some_iff
  counters := fun _ _ => attempts?_prune_eq_some_iff

end Ledger

/-! ## Reading a pruned ledger back -/

namespace Binary.Codec

theorem steady_transport : transport.Steady :=
  exact_transport.steady fun t => ⟨t.index, rfl⟩

theorem steady_status : status.Steady :=
  exact_status.steady fun s => ⟨s.index, rfl⟩

theorem steady_address : address.Steady :=
  (steady_text.pair steady_uint16).via fun _ => rfl

theorem steady_messageId : messageId.Steady :=
  steady_text.via fun _ => rfl

theorem steady_networkId : networkId.Steady :=
  ((steady_transport.table steady_address).pair steady_bytes).via fun _ => rfl

theorem steady_keyPair : keyPair.Steady :=
  (steady_bytes.pair steady_bytes).via fun _ => rfl

theorem steady_sealedBody : sealedBody.Steady :=
  (steady_bytes.pair <| steady_bytes.pair <| steady_bytes.pair <|
    steady_bytes.pair steady_bytes).via fun _ => rfl

theorem steady_message : message.Steady :=
  (steady_sealedBody.pair steady_text).via fun _ => rfl

theorem steady_record : record.Steady :=
  (steady_messageId.pair <| steady_message.pair <| steady_networkId.pair <|
    steady_keyPair.pair <| steady_networkId.pair <| steady_status.pair <|
    steady_uint64.pair steady_uint64).via fun _ => rfl

theorem read_ledger {input rest : Bytes} {l : Ledger}
    (hread : ledger.read input = .ok (l, rest)) :
    ∃ between, (table messageId record).read input = .ok (l.records, between) ∧
      (table messageId uint32).read between = .ok (l.attempts, rest) := by
  obtain ⟨⟨records, attempts⟩, hparts, rfl⟩ := read_via hread
  exact read_pair hparts

/-- A ledger that was read is read back after it was pruned and written. -/
theorem keeps_prune {input rest : Bytes} {l : Ledger}
    (hread : ledger.read input = .ok (l, rest)) (now : UInt64) :
    ledger.Keeps (l.prune now) := by
  obtain ⟨between, hrecords, hattempts⟩ := read_ledger hread
  have hlive :=
    (keepsPairs_of_read steady_messageId steady_record hrecords).filter
    fun _ r => !r.isExpired now
  have hcounted :=
    (keepsPairs_of_read steady_messageId steady_uint32 hattempts).filter
    fun id _ => (l.records.filter fun _ r => !r.isExpired now).contains id
  exact Keeps.via (hlive.keeps.pair hcounted.keeps) rfl

end Binary.Codec

namespace Ledger

variable {l : Ledger}

theorem read_of_decode {bytes : Bytes} (hdecode : decode bytes = .ok l) :
    ∃ body, bytes = formatVersion :: body ∧
      Binary.Codec.ledger.read body = .ok (l, []) := by
  cases bytes with
  | nil => cases hdecode
  | cons version body =>
    by_cases hversion : version = formatVersion
    · subst hversion
      rw [decode_version] at hdecode
      split at hdecode
      next => cases hdecode
      next hread =>
        cases hdecode
        exact ⟨body, rfl, hread⟩
      next => cases hdecode
    · simp [decode, hversion] at hdecode

/-- What is left of a ledger that was read from a file is read from the file
that is written of it. -/
theorem decode_encode_prune {bytes : Bytes} (hdecode : decode bytes = .ok l)
    (now : UInt64) : decode (l.prune now).encode = .ok (l.prune now) := by
  obtain ⟨body, -, hread⟩ := read_of_decode hdecode
  have hkeeps := Binary.Codec.keeps_prune hread now []
  rw [List.append_nil] at hkeeps
  rw [encode, decode_version, hkeeps]

end Ledger

end Redelivery
