import Redelivery.Binary.Reader

/-!
# Whole numbers of varying length

Numbers below 251 take one byte.  Greater ones take a byte that announces their
width and then two, four or eight bytes, the least first.  Writing picks the
shortest form; reading accepts every form no wider than its place allows.
-/

namespace Redelivery.Binary

namespace Varint

/-- The first byte that announces something else than a number of its own. -/
def firstMark : Nat := 251

/-- The shortest form of a number of at most 64 bits. -/
def write (n : Nat) : Bytes :=
  if n < firstMark then [UInt8.ofNat n]
  else if n < UInt16.size then 251 :: Bytes.littleEndian 2 n
  else if n < UInt32.size then 252 :: Bytes.littleEndian 4 n
  else 253 :: Bytes.littleEndian 8 n

/-- The bytes that the widest number of a place takes after its first byte. -/
def room : IntegerType → Nat
  | .u16 => 2
  | .u32 => 4
  | _ => 8

/-- What a mark announces: a number of bytes, and the name of their width. -/
def announced (mark : UInt8) : Option (Nat × IntegerType) :=
  match mark.toNat with
  | 251 => some (2, .u16)
  | 252 => some (4, .u32)
  | 253 => some (8, .u64)
  | 254 => some (16, .u128)
  | 255 => some (16, .reserved)
  | _ => none

/-- The width that a complaint names as the expected one, with so many bytes
left from the mark on.  Where the nine bytes of the longest form are there, a
place of 64 bits is named as one of 32. -/
def expected (place : IntegerType) (left : Nat) : IntegerType :=
  match place with
  | .u64 => if 9 ≤ left then .u32 else .u64
  | place => place

def read (place : IntegerType) : Reader Nat
  | [] => .error (.unexpectedEnd 1)
  | mark :: rest =>
    match announced mark with
    | none => .ok (mark.toNat, rest)
    | some (count, width) =>
      if count ≤ room place then
        match Reader.take count rest with
        | .ok (bytes, rest) => .ok (Bytes.ofLittleEndian bytes, rest)
        | .error cause => .error cause
      else .error (.integerTooWide (expected place (rest.length + 1)) width)

end Varint

end Redelivery.Binary
