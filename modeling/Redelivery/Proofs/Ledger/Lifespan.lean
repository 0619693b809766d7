import Redelivery.Node
import Redelivery.Proofs.Ledger.Lookup

/-!
# How long a record lives

A record lives for its lifetime from the time at which it is made.  Its lifetime
in milliseconds and the time at which it expires are both held at the greatest
number of 64 bits.  No time comes after that number, so a record whose expiry is
held there never expires, and every other expires at the exact sum: its age
tells whether its life is over as if numbers had no bound.
-/

namespace Redelivery

namespace Lifetime

def nanosPerMilli : Nat := 1000000

def totalNanos (l : Lifetime) : Nat :=
  l.seconds.toNat * nanosPerSecond + l.nanos.toNat

/-- A second has whole milliseconds, so the span is cut off where its
nanoseconds below one second are. -/
theorem millis_eq (l : Lifetime) : l.millis = l.totalNanos / nanosPerMilli := by
  simp only [millis, totalNanos, nanosPerMilli, nanosPerSecond]
  omega

theorem millis_ofSeconds (seconds : UInt64) :
    (ofSeconds seconds).millis = seconds.toNat * 1000 := by
  simp [millis, ofSeconds]

end Lifetime

namespace Record

variable {made now : UInt64} {ttl : Lifetime} {r : Record}

/-- How old a record made at `made` is at `now`, in milliseconds; less than 0
before it is made. -/
def age (made now : UInt64) : Int :=
  now.toNat - made.toNat

/-- No time comes after the end of time, so a record that is held there outlives
all times. -/
theorem expiry_lt_iff :
    expiry made ttl < now ↔ made.toNat + ttl.millis < now.toNat := by
  have hnow : now.toNat ≤ maxUInt64 := Nat.le_sub_one_of_lt now.toNat_lt
  rw [UInt64.lt_iff_toNat_lt, toNat_expiry]
  omega

theorem isExpired_iff_millis_lt_age (hr : r.expiresAt = expiry made ttl) :
    r.isExpired now = true ↔ (ttl.millis : Int) < age made now :=
  calc r.isExpired now = true
    _ ↔ expiry made ttl < now := by rw [isExpired, hr, decide_eq_true_iff]
    _ ↔ made.toNat + ttl.millis < now.toNat := expiry_lt_iff
    _ ↔ (ttl.millis : Int) < age made now := by rw [age]; omega

/-- A record that is made at some time lives just for its lifetime. -/
structure LivesFor (r : Record) (made : UInt64) (ttl : Lifetime) : Prop where
  /-- Its life is over as soon as it is older than the whole milliseconds of its
  lifetime. -/
  isExpired_iff : ∀ now, r.isExpired now = true ↔
    ((ttl.totalNanos / Lifetime.nanosPerMilli : Nat) : Int) < age made now
  /-- It expires when these are up, or at the end of time if they are not up by
  then. -/
  expiresAt : r.expiresAt.toNat =
    min (made.toNat + ttl.totalNanos / Lifetime.nanosPerMilli) maxUInt64
  /-- Once its life is over, it stays over. -/
  stays : ∀ now later, now ≤ later → r.isExpired now = true →
    r.isExpired later = true

/-- Whatever its lifetime and whenever it is made, a record lives just for its
lifetime. -/
theorem livesFor_new (made : UInt64) (id : MessageId)
    (payload : ConfidentialMessage) (sender : Sender) (receiver : NetworkId)
    (status : DeliveryStatus) (ttl : Lifetime) :
    (Record.new made id payload sender receiver status ttl).LivesFor
      made ttl where
  isExpired_iff := by
    intro now
    rw [← ttl.millis_eq]
    exact isExpired_iff_millis_lt_age rfl
  expiresAt := by
    rw [← ttl.millis_eq]
    exact toNat_expiry made ttl
  stays := fun _ _ => isExpired_mono

/-- The longest lifetime that ends for a record made at 1 is not held: one more
millisecond would be without end. -/
example : expiry 1 ⟨18446744073709551, 613999999, by decide⟩ =
  18446744073709551614 := by
  decide

end Record

/-- The settings give the lifetime in seconds, and a record lives for as
many. -/
theorem Settings.isExpired_record_iff (s : Settings) (made now : UInt64)
    (id : MessageId) (payload : ConfidentialMessage) (sender : Sender)
    (receiver : NetworkId) (status : DeliveryStatus) :
    (s.record made id payload sender receiver status).isExpired now = true ↔
      ((s.recordTtlSeconds.toNat * 1000 : Nat) : Int) <
        Record.age made now := by
  rw [← Lifetime.millis_ofSeconds]
  exact Record.isExpired_iff_millis_lt_age rfl

end Redelivery
