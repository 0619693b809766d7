/-!
# Sleep

How long something that sets itself to sleep does sleep: as long as it wants to,
but it wakes after thirty years at the latest.
-/

namespace Redelivery

/-- The longest that anything sleeps, in milliseconds: thirty years of 365
days. -/
def longestSleep : Nat := 30 * 365 * 24 * 60 * 60 * 1000

/-- How many milliseconds a sleep takes that is meant to take `wanted`. -/
def sleepTime (wanted : Nat) : Nat :=
  if wanted ≤ longestSleep then wanted else longestSleep

theorem sleepTime_of_le {wanted : Nat} (h : wanted ≤ longestSleep) :
    sleepTime wanted = wanted :=
  if_pos h

theorem sleepTime_pos {wanted : Nat} (h : 0 < wanted) :
    0 < sleepTime wanted := by
  unfold sleepTime longestSleep
  split <;> omega

theorem sleepTime_le (wanted : Nat) : sleepTime wanted ≤ wanted := by
  unfold sleepTime
  split <;> omega

theorem sleepTime_le_longestSleep (wanted : Nat) :
    sleepTime wanted ≤ longestSleep := by
  unfold sleepTime
  split <;> omega

end Redelivery
