import Redelivery.Delivery.Envelope
import Redelivery.Delivery.Status
import Redelivery.Ledger.MessageId

/-!
# Records

A record is all that is needed to send one message again, with the status last
seen for it.  A record lives until the millisecond in which it expires is over.
-/

namespace Redelivery

/-- All that is needed to send one message again. -/
structure Record where
  id : MessageId
  /-- The message as it was sealed; it is sent again without change. -/
  payload : ConfidentialMessage
  sender : Sender
  receiver : NetworkId
  status : DeliveryStatus
  /-- When the record was made, in milliseconds of the calendar. -/
  createdAt : UInt64
  /-- The last millisecond of the record's life. -/
  expiresAt : UInt64
deriving DecidableEq, Inhabited

namespace Record

/-- When a record made at `now` expires; the end of time stands for every later
moment. -/
def expiry (now : UInt64) (ttl : Lifetime) : UInt64 :=
  saturate64 (now.toNat + (saturate64 ttl.millis).toNat)

/-- To hold the lifetime and then the sum is to hold the sum. -/
theorem toNat_expiry (now : UInt64) (ttl : Lifetime) :
    (expiry now ttl).toNat = min (now.toNat + ttl.millis) maxUInt64 := by
  rw [expiry, toNat_saturate64, toNat_saturate64]
  omega

/-- The record of a message that has just been handed to the network. -/
def new (now : UInt64) (id : MessageId) (payload : ConfidentialMessage)
    (sender : Sender) (receiver : NetworkId) (status : DeliveryStatus)
    (ttl : Lifetime) : Record where
  id := id
  payload := payload
  sender := sender
  receiver := receiver
  status := status
  createdAt := now
  expiresAt := expiry now ttl

def withStatus (r : Record) (status : DeliveryStatus) : Record :=
  { r with status }

def isExpired (r : Record) (now : UInt64) : Bool :=
  decide (r.expiresAt < now)

end Record

end Redelivery
