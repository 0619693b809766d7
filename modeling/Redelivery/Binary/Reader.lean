import Redelivery.Text.Utf8

/-!
# Reading binary data

A reader takes a value off the front of some bytes and hands on the bytes it did
not use, or says why the bytes hold no such value.
-/

namespace Redelivery.Binary

/-- The widths that a written whole number is told apart by. -/
inductive IntegerType where
  | u16
  | u32
  | u64
  | u128
  | size
  /-- A width that is kept for later use. -/
  | reserved
deriving DecidableEq

namespace IntegerType

def name : IntegerType → String
  | u16 => "U16"
  | u32 => "U32"
  | u64 => "U64"
  | u128 => "U128"
  | size => "Usize"
  | reserved => "Reserved"

end IntegerType

/-- Why bytes hold no value of the kind asked for. -/
inductive ReadError where
  /-- The bytes ended, and so many more were needed for the part being read. -/
  | unexpectedEnd (missing : Nat)
  /-- A whole number announces a width that is too great for its place. -/
  | integerTooWide (expected found : IntegerType)
  | invalidText (cause : Text.Utf8Error)
  | unknownVariant (index count : Nat)
  | invalidBoolean (byte : Nat)
  | lifetimeTooLong
deriving DecidableEq

def utf8ErrorText (e : Text.Utf8Error) : String :=
  let length := match e.errorLength with
    | some n => "Some(" ++ toString n ++ ")"
    | none => "None"
  "Utf8Error \x7b valid_up_to: " ++ toString e.validUpTo ++ ", error_len: " ++
    length ++ " \x7d"

namespace ReadError

def message : ReadError → String
  | unexpectedEnd missing =>
    "UnexpectedEnd \x7b additional: " ++ toString missing ++ " \x7d"
  | integerTooWide expected found =>
    "InvalidIntegerType \x7b expected: " ++ expected.name ++ ", found: " ++
      found.name ++ " \x7d"
  | invalidText cause => "Utf8 \x7b inner: " ++ utf8ErrorText cause ++ " \x7d"
  | unknownVariant index count =>
    "OtherString(\"invalid value: integer `" ++ toString index ++
      "`, expected variant index 0 <= i < " ++ toString count ++ "\")"
  | invalidBoolean byte => "InvalidBooleanValue(" ++ toString byte ++ ")"
  | lifetimeTooLong => "OtherString(\"overflow deserializing Duration\")"

end ReadError

/-- A way to take a value off the front of some bytes. -/
abbrev Reader (α : Type) := Bytes → Except ReadError (α × Bytes)

namespace Reader

def pure {α : Type} (value : α) : Reader α := fun input => .ok (value, input)

def fail {α : Type} (cause : ReadError) : Reader α := fun _ => .error cause

def bind {α β : Type} (first : Reader α) (next : α → Reader β) :
    Reader β := fun input =>
  match first input with
  | .ok (value, rest) => next value rest
  | .error cause => .error cause

instance : Monad Reader where
  pure := Reader.pure
  bind := Reader.bind

/-- Takes a number of bytes as a whole. -/
def take (count : Nat) : Reader Bytes := fun input =>
  if count ≤ input.length then .ok (input.take count, input.drop count)
  else .error (.unexpectedEnd (count - input.length))

def takeEach (count : Nat) : Reader Bytes := fun input =>
  if count ≤ input.length then .ok (input.take count, input.drop count)
  else .error (.unexpectedEnd 1)

def byte : Reader UInt8
  | [] => .error (.unexpectedEnd 1)
  | b :: rest => .ok (b, rest)

def many {α : Type} (item : Reader α) : Nat → Reader (List α)
  | 0 => Reader.pure []
  | count + 1 => do
    let first ← item
    let others ← many item count
    return first :: others

end Reader

end Redelivery.Binary
