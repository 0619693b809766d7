/-!
# Bytes

Byte strings as lists, and whole numbers written with the least byte first.
-/

namespace Redelivery

abbrev Bytes := List UInt8

namespace Bytes

/-- The `count` lowest bytes of a number, the least first. -/
def littleEndian : Nat → Nat → Bytes
  | 0, _ => []
  | count + 1, n => UInt8.ofNat (n % 256) :: littleEndian count (n / 256)

/-- The number that bytes with the least first stand for. -/
def ofLittleEndian : Bytes → Nat
  | [] => 0
  | b :: rest => b.toNat + 256 * ofLittleEndian rest

/-- How many numbers so many bytes tell apart. -/
def capacity : Nat → Nat
  | 0 => 1
  | count + 1 => 256 * capacity count

@[simp]
theorem length_littleEndian (count n : Nat) :
    (littleEndian count n).length = count := by
  induction count generalizing n with
  | zero => rfl
  | succ count ih => simp [littleEndian, ih]

theorem ofLittleEndian_littleEndian {count n : Nat} (h : n < capacity count) :
    ofLittleEndian (littleEndian count n) = n := by
  induction count generalizing n with
  | zero =>
    simp only [capacity] at h; simp only [littleEndian, ofLittleEndian]; omega
  | succ count ih =>
    have below : n / 256 < capacity count := by
      simp only [capacity] at h
      omega
    have low : (UInt8.ofNat (n % 256)).toNat = n % 256 := by
      simp
    simp only [littleEndian, ofLittleEndian, ih below, low]
    omega

def hexDigit? (c : Char) : Option Nat :=
  if '0' ≤ c && c ≤ '9' then some (c.toNat - '0'.toNat)
  else if 'a' ≤ c && c ≤ 'f' then some (c.toNat - 'a'.toNat + 10)
  else if 'A' ≤ c && c ≤ 'F' then some (c.toNat - 'A'.toNat + 10)
  else none

def ofHexDigits? : List Char → Option Bytes
  | [] => some []
  | [_] => none
  | a :: b :: rest => do
    let high ← hexDigit? a
    let low ← hexDigit? b
    return UInt8.ofNat (16 * high + low) :: (← ofHexDigits? rest)

def ofHex? (text : String) : Option Bytes :=
  ofHexDigits? text.toList

def hex (bytes : Bytes) : String :=
  String.ofList (bytes.flatMap fun b =>
    [Nat.digitChar (b.toNat / 16), Nat.digitChar (b.toNat % 16)])

end Bytes

end Redelivery
