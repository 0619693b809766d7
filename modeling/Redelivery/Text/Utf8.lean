import Redelivery.Bytes

/-!
# UTF-8

The bytes of a text, the text of some bytes, and where bytes stop being a text.
-/

namespace Redelivery.Text

/-- Where bytes stop being a text: the place of the first sequence that is none,
and how many of its bytes are known to be wrong.  No such number means that the
bytes end within a sequence that was right so far. -/
structure Utf8Error where
  validUpTo : Nat
  errorLength : Option Nat
deriving DecidableEq

def Utf8Error.message (e : Utf8Error) : String :=
  match e.errorLength with
  | some n =>
    "invalid utf-8 sequence of " ++ toString n ++ " bytes from index " ++
      toString e.validUpTo
  | none => "incomplete utf-8 byte sequence from index " ++ toString e.validUpTo

namespace Utf8

/-- The least and the greatest byte that may stand at one place of a
sequence. -/
structure ByteRange where
  least : Nat
  greatest : Nat

def ByteRange.holds (r : ByteRange) (b : UInt8) : Bool :=
  r.least ≤ b.toNat && b.toNat ≤ r.greatest

def anyFollowing : ByteRange := ⟨0x80, 0xBF⟩

/-- The bytes that have to follow a first byte; none if no sequence starts with
it.  The narrower second ranges keep out forms that are too long, surrogates,
and numbers above the last character. -/
def following (first : UInt8) : Option (List ByteRange) :=
  let n := first.toNat
  if n < 0x80 then some []
  else if n < 0xC2 then none
  else if n < 0xE0 then some [anyFollowing]
  else if n = 0xE0 then some [⟨0xA0, 0xBF⟩, anyFollowing]
  else if n = 0xED then some [⟨0x80, 0x9F⟩, anyFollowing]
  else if n < 0xF0 then some [anyFollowing, anyFollowing]
  else if n = 0xF0 then some [⟨0x90, 0xBF⟩, anyFollowing, anyFollowing]
  else if n < 0xF4 then some [anyFollowing, anyFollowing, anyFollowing]
  else if n = 0xF4 then some [⟨0x80, 0x8F⟩, anyFollowing, anyFollowing]
  else none

/-- Looks for the first sequence that is none.  `start` is where the sequence
began that still waits for bytes in the ranges `awaited`, and `taken` how many
of its bytes are past. -/
def scan (place start taken : Nat) (awaited : List ByteRange) :
    Bytes → Option Utf8Error
  | [] => if awaited.isEmpty then none else some ⟨start, none⟩
  | b :: rest =>
    match awaited with
    | [] =>
      match following b with
      | some ranges => scan (place + 1) place 1 ranges rest
      | none => some ⟨place, some 1⟩
    | r :: later =>
      if r.holds b then scan (place + 1) start (taken + 1) later rest
      else some ⟨start, some taken⟩

def encode (text : String) : Bytes :=
  text.toUTF8.data.toList

def decode (bytes : Bytes) : Except Utf8Error String :=
  match String.fromUTF8? ⟨bytes.toArray⟩ with
  | some text => .ok text
  | none => .error ((scan 0 0 0 [] bytes).getD ⟨0, none⟩)

/-- The bytes of a text read back as that text. -/
theorem decode_encode (text : String) : decode (encode text) = .ok text := by
  have same : ByteArray.mk (encode text).toArray = text.toByteArray := by
    simp [encode]
  have found : String.fromUTF8? text.toByteArray = some text := by
    simp only [String.fromUTF8?, dif_pos text.isValidUTF8]
    rfl
  simp only [decode, same, found]

/-- Only the bytes of a text read as it. -/
theorem eq_encode_of_decode {bytes : Bytes} {text : String}
    (h : decode bytes = .ok text) :
    bytes = encode text := by
  unfold decode at h
  split at h
  next found =>
    cases h
    simp only [String.fromUTF8?] at found
    split at found
    next => cases found; simp [encode, String.fromUTF8]
    next => simp at found
  next => simp at h

end Utf8

end Redelivery.Text
