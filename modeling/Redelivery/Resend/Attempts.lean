import Redelivery.Resend.Config

/-!
# Counting attempts

Timers, sweeps and the user share one counter for each message, and each of them
has a bound on it.  A message without a counter was sent once.
-/

namespace Redelivery

/-- Which bound an attempt is held against. -/
inductive ResendBound where
  | automatic
  | manual
deriving DecidableEq

namespace ResendBound

/-- The greatest counter with which an attempt is still made. -/
def limit (b : ResendBound) (config : ResendConfig) : UInt32 :=
  match b with
  | automatic => config.maxAutoResends
  | manual => config.maxManualResends

def name : ResendBound → String
  | automatic => "automatic"
  | manual => "manual"

end ResendBound

/-- The answer to a request for an attempt. -/
inductive Admission where
  /-- The attempt is made, and the counter becomes `attempts`. -/
  | allowed (attempts : UInt32)
  /-- The counter is beyond the bound already. -/
  | refused (attempts : UInt32)
deriving DecidableEq

/-- The attempts that a counter stands for. -/
def attemptsMade (counter : Option UInt32) : UInt32 :=
  counter.getD 1

def nextCount (n : UInt32) : UInt32 :=
  if n.toNat + 1 < UInt32.size then n + 1 else n

def Admission.of (counter : Option UInt32) (limit : UInt32) : Admission :=
  let current := attemptsMade counter
  if limit < current then .refused current else .allowed (nextCount current)

/-- Whether the user may still ask for an attempt, as far as the counter
goes. -/
def manualResendAvailable (counter : Option UInt32) (limit : UInt32) : Bool :=
  match counter with
  | some attempts => attempts ≤ limit
  | none => true

end Redelivery
