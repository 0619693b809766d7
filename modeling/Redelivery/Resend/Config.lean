/-!
# Resend settings

How long to wait before a message is sent again, and how often that may happen.
-/

namespace Redelivery

/-- Intervals in milliseconds, and bounds on the attempts counted for a
message. -/
structure ResendConfig where
  /-- The wait while a message is on its way to the peer or to its mailbox. -/
  resendInterval : UInt64 := 120000
  failedResendInterval : UInt64 := 15000
  /-- The bound for timers and sweeps. -/
  maxAutoResends : UInt32 := 2
  /-- The bound for requests of the user. -/
  maxManualResends : UInt32 := 3
  /-- The wait between a transport coming up and the sweep that follows. -/
  reconnectSweepDelay : UInt64 := 10000
deriving DecidableEq, Inhabited

namespace ResendConfig

def standard : ResendConfig := {}

def text (c : ResendConfig) : String :=
  "ResendConfig \x7b resend_interval_ms: " ++ toString c.resendInterval.toNat ++
    ", failed_resend_interval_ms: " ++ toString c.failedResendInterval.toNat ++
    ", max_auto_resends: " ++ toString c.maxAutoResends.toNat ++
    ", max_manual_resends: " ++ toString c.maxManualResends.toNat ++
    ", reconnect_sweep_delay_ms: " ++
      toString c.reconnectSweepDelay.toNat ++ " \x7d"

end ResendConfig

end Redelivery
