import Redelivery.Delivery.Status
import Redelivery.Resend.Config

/-!
# What a status asks for

Every delivery status decides three things together: whether the record of the
message stays in the ledger, what happens to its timer, and whether its status
is still followed.
-/

namespace Redelivery

inductive LedgerAction where
  | upsert
  | remove
deriving DecidableEq

inductive TimerAction where
  /-- A timer of so many milliseconds takes the place of the one that there
  is. -/
  | arm (delay : UInt64)
  | cancel
deriving DecidableEq

/-- All that follows from a status. -/
structure Decision where
  ledger : LedgerAction
  timer : TimerAction
  detach : Bool
deriving DecidableEq

/-- Decides what a status asks for. -/
def DeliveryStatus.classify (status : DeliveryStatus) (config : ResendConfig) :
    Decision :=
  match status with
  | connecting | sent | tryAddToMailbox =>
    ⟨.upsert, .arm config.resendInterval, false⟩
  | failed => ⟨.upsert, .arm config.failedResendInterval, false⟩
  | addedToMailbox => ⟨.upsert, .cancel, false⟩
  | ackReceived | mailboxMsgReceived => ⟨.remove, .cancel, true⟩

/-- Whether a message may be sent again without the user asking for it. -/
def DeliveryStatus.rearmAllowed (status : DeliveryStatus) : Bool :=
  !(status.isReceived || status.isInMailbox)

/-- Whether a sweep sends a message again; one that has a timer is left to
it. -/
def DeliveryStatus.needsSweep (status : DeliveryStatus) (armed : Bool) : Bool :=
  !armed && status.rearmAllowed

theorem DeliveryStatus.rearmAllowed_eq_isPending (status : DeliveryStatus) :
    status.rearmAllowed = status.isPending :=
  status.isPending_eq.symm

/-- A timer is armed only where sending again is allowed. -/
theorem DeliveryStatus.rearmAllowed_of_arm {status : DeliveryStatus}
    {config : ResendConfig} {delay : UInt64}
    (h : (status.classify config).timer = .arm delay) :
    status.rearmAllowed = true := by
  cases status <;> simp_all [classify, rearmAllowed, isReceived, isInMailbox]

end Redelivery
