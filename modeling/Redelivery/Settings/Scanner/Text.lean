import Redelivery.Bytes
import Redelivery.Settings.Scanner
import Redelivery.Text.Utf8

/-!
# Texts in settings

The scanners of texts, byte strings and characters.  A text stands between
quotes, and a backslash in it marks what stands for something else; in a raw
text nothing does.
-/

namespace Redelivery.Scanner

open Bytes (hexDigit?)

/-- What is left out behind the backslash that stands at the end of a line. -/
def inMargin (c : Char) : Bool :=
  c = ' ' || c = '\t' || c = '\n' || c = '\r'

/-- Takes some hexadecimal digits, at most so many, that a brace ends. -/
def bracedHex : Nat → Nat → Scanner Nat
  | 0, n => do
    expect "\x7d"
    return n
  | most + 1, n => do
    if ← accept "\x7d" then return n
    else
      match ← get with
      | c :: rest =>
        match hexDigit? c with
        | some digit =>
          set rest
          bracedHex most (16 * n + digit)
        | none => failure
      | [] => failure

def hexByte : Scanner UInt8 := do
  match ← get with
  | a :: b :: rest =>
    match hexDigit? a, hexDigit? b with
    | some high, some low =>
      set rest
      return UInt8.ofNat (16 * high + low)
    | _, _ => failure
  | _ => failure

/-- Takes the bytes of one character, each of them as two hexadecimal digits;
there are at most so many more. -/
def hexCharacter (before : Bytes) : Nat → Scanner Bytes
  | 0 => failure
  | most + 1 => do
    let bytes := before ++ [← hexByte]
    match Text.Utf8.decode bytes with
    | .ok _ => return bytes
    | .error _ =>
      expect "\\x"
      hexCharacter bytes most

/-- Takes what stands behind a backslash, and gives the bytes that it stands
for.  Outside of byte strings these are always the bytes of one character. -/
def escape (binary : Bool) : Scanner Bytes := do
  match ← get with
  | '\'' :: rest => set rest; return [0x27]
  | '"' :: rest => set rest; return [0x22]
  | '\\' :: rest => set rest; return [0x5C]
  | 'n' :: rest => set rest; return [0x0A]
  | 'r' :: rest => set rest; return [0x0D]
  | 't' :: rest => set rest; return [0x09]
  | '0' :: rest => set rest; return [0x00]
  | 'x' :: rest =>
    set rest
    if binary then return [← hexByte] else hexCharacter [] 4
  | 'u' :: '\x7b' :: rest =>
    if rest.head? = some '\x7d' then failure
    else
      set rest
      let n ← bracedHex 6 0
      if h : n.isValidChar then
        return Text.Utf8.encode (String.singleton (Char.ofNatAux n h))
      else failure
  | _ => failure

/-- Takes a text up to the quote that ends it, and gives its bytes.  A backslash
at the end of a line leaves out that end and the blanks and empty lines behind
it. -/
def quotedBody (binary : Bool) : Nat → Scanner Bytes
  | 0 => failure
  | most + 1 => do
    match ← get with
    | [] => failure
    | '"' :: rest => set rest; return []
    | '\\' :: '\n' :: rest | '\\' :: '\r' :: '\n' :: rest =>
      set (rest.dropWhile inMargin)
      quotedBody binary most
    | '\\' :: rest =>
      set rest
      let first ← escape binary
      return first ++ (← quotedBody binary most)
    | c :: rest =>
      set rest
      return Text.Utf8.encode (String.singleton c) ++ (← quotedBody binary most)

/-- What stands before the first place where some characters stand, and what
follows it. -/
def splitAt? (mark : List Char) : List Char → Option (List Char × List Char)
  | [] => if mark.isEmpty then some ([], []) else none
  | c :: rest =>
    if mark.isPrefixOf (c :: rest) then some ([], (c :: rest).drop mark.length)
    else (splitAt? mark rest).map fun (before, after) => (c :: before, after)

def rawBody : Scanner Bytes := do
  let hashes ← takeWhile (· = '#')
  expect "\""
  match splitAt? ('"' :: hashes) (← get) with
  | some (body, rest) =>
    set rest
    return Text.Utf8.encode (String.ofList body)
  | none => failure

def quoted (binary : Bool) : Scanner Bytes := do
  quotedBody binary ((← get).length + 1)

def text : Scanner String := do
  let bytes ← if ← accept "\"" then quoted false else do
    expect "r"
    rawBody
  match Text.Utf8.decode bytes with
  | .ok s => return s
  | .error _ => failure

def byteString : Scanner Bytes := do
  if ← accept "b\"" then quoted true
  else
    expect "br"
    rawBody

def character : Scanner Char := do
  expect "'"
  match ← get with
  | [] => failure
  | '\\' :: rest =>
    set rest
    let bytes ← escape false
    expect "'"
    match (Text.Utf8.decode bytes).toOption.map String.toList with
    | some [c] => return c
    | _ => failure
  | c :: rest =>
    set rest
    expect "'"
    return c

end Redelivery.Scanner
