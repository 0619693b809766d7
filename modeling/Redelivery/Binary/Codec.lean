import Redelivery.Binary.Varint
import Redelivery.Table

/-!
# Codecs

A codec writes values as bytes and reads them back.  Codecs of compound values
are put together from those of their parts, which follow each other without
anything in between.
-/

namespace Redelivery.Binary

/-- A way to write values of a kind and to read them. -/
structure Codec (α : Type) where
  write : α → Bytes
  read : Reader α

namespace Codec

variable {α β κ : Type}

def via (c : Codec β) (view : α → β) (unview : β → α) : Codec α where
  write a := c.write (view a)
  read := unview <$> c.read

def pair (first : Codec α) (second : Codec β) : Codec (α × β) where
  write ab := first.write ab.1 ++ second.write ab.2
  read := do
    let a ← first.read
    let b ← second.read
    return (a, b)

def uint16 : Codec UInt16 where
  write n := Varint.write n.toNat
  read := UInt16.ofNat <$> Varint.read .u16

def uint32 : Codec UInt32 where
  write n := Varint.write n.toNat
  read := UInt32.ofNat <$> Varint.read .u32

def uint64 : Codec UInt64 where
  write n := Varint.write n.toNat
  read := UInt64.ofNat <$> Varint.read .u64

/-- A truth value, one byte. -/
def boolean : Codec Bool where
  write b := [if b then 1 else 0]
  read := do
    let b ← Reader.byte
    if b = 0 then return false
    else if b = 1 then return true
    else Reader.fail (.invalidBoolean b.toNat)

/-- Bytes after their number. -/
def bytes : Codec Bytes where
  write b := Varint.write b.length ++ b
  read := do
    let count ← Varint.read .size
    Reader.takeEach count

def text : Codec String where
  write s := Varint.write (Text.Utf8.encode s).length ++ Text.Utf8.encode s
  read := do
    let count ← Varint.read .u64
    let bytes ← Reader.take count
    match Text.Utf8.decode bytes with
    | .ok s => return s
    | .error cause => Reader.fail (.invalidText cause)

/-- One of several alternatives, by its number. -/
def choice (index : α → Nat) (ofIndex? : Nat → Option α) (count : Nat) :
    Codec α where
  write a := Varint.write (index a)
  read := do
    let n ← Varint.read .u32
    match ofIndex? n with
    | some a => return a
    | none => Reader.fail (.unknownVariant n count)

/-- The pairs of a table, in some order, after their number. -/
def writePairs (key : Codec κ) (value : Codec α) (pairs : List (κ × α)) :
    Bytes :=
  Varint.write pairs.length ++ pairs.flatMap (pair key value).write

/-- A table, as its pairs after their number.  Pairs are written in key order
and read in any; of several with one key the last counts. -/
def table [Ord κ] [Std.TransOrd κ] (key : Codec κ) (value : Codec α) :
    Codec (Table κ α) where
  write t := writePairs key value t.toList
  read := do
    let count ← Varint.read .size
    let pairs ← Reader.many (pair key value).read count
    return Table.ofList pairs

end Codec

end Redelivery.Binary
