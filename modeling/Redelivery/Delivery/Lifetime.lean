/-!
# Lifetimes

A span of time as whole seconds and nanoseconds below one second.  Spans are
used in whole milliseconds, cut off and held below 2^64.
-/

namespace Redelivery

def nanosPerSecond : Nat := 1000000000

def maxUInt64 : Nat := UInt64.size - 1

/-- A number held at the greatest of 64 bits. -/
def saturate64 (n : Nat) : UInt64 :=
  UInt64.ofNat (min n maxUInt64)

theorem toNat_saturate64 (n : Nat) :
    (saturate64 n).toNat = min n maxUInt64 := by
  have : min n maxUInt64 < UInt64.size := by
    simp only [maxUInt64, UInt64.size]; omega
  simpa [saturate64] using Nat.mod_eq_of_lt this

structure Lifetime where
  seconds : UInt64
  nanos : UInt32
  nanos_lt : nanos.toNat < nanosPerSecond

namespace Lifetime

instance : DecidableEq Lifetime := fun a b =>
  decidable_of_iff (a.seconds = b.seconds ∧ a.nanos = b.nanos) <| by
    cases a; cases b; simp

instance : Inhabited Lifetime := ⟨⟨0, 0, by decide⟩⟩

def ofSeconds (seconds : UInt64) : Lifetime :=
  ⟨seconds, 0, by decide⟩

/-- The span of some seconds and any number of nanoseconds, whole seconds of
which are carried; none when the seconds leave 64 bits. -/
def ofParts? (seconds : UInt64) (nanos : UInt32) : Option Lifetime :=
  let whole := seconds.toNat + nanos.toNat / nanosPerSecond
  if whole ≤ maxUInt64 then
    some {
      seconds := UInt64.ofNat whole
      nanos := UInt32.ofNat (nanos.toNat % nanosPerSecond)
      nanos_lt := by
        have small : nanos.toNat % nanosPerSecond < nanosPerSecond :=
          Nat.mod_lt _ (by decide)
        have fits : nanos.toNat % nanosPerSecond < UInt32.size :=
          Nat.lt_trans small (by decide)
        rw [UInt32.toNat_ofNat', Nat.mod_eq_of_lt fits]
        exact small }
  else none

/-- The whole milliseconds of a span. -/
def millis (l : Lifetime) : Nat :=
  l.seconds.toNat * 1000 + l.nanos.toNat / 1000000

end Lifetime

end Redelivery
