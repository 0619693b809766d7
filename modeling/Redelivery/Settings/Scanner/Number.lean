import Redelivery.Settings.Scanner.Text
import Redelivery.Settings.Value

/-!
# Numbers in settings

The scanners of whole numbers, decimal numbers, and ranges of numbers.
-/

namespace Redelivery.Scanner

open Bytes (hexDigit?)

/-! ## Whole numbers -/

def inInteger (c : Char) : Bool :=
  c = '_' || (hexDigit? c).isSome

/-- The widths that may stand behind a whole number, with the greatest number of
each and the greatest that may follow a minus. -/
def widths : List (String × Nat × Nat) :=
  [("i8", 127, 128), ("i16", 32767, 32768), ("i32", 2147483647, 2147483648),
    ("i64", 9223372036854775807, 9223372036854775808), ("u8", 255, 0),
    ("u16", 65535, 0), ("u32", 4294967295, 0), ("u64", 18446744073709551615, 0)]

def number? (base : Nat) (digits : List Char) : Option Nat :=
  digits.foldlM (fun n c =>
    if c = '_' then some n
    else (hexDigit? c).bind fun digit =>
      if digit < base then some (base * n + digit) else none) 0

def sign : Scanner Bool := do
  if ← accept "-" then return true
  else
    let _ ← accept "+"
    return false

def base : Scanner Nat := do
  if ← accept "0b" then return 2
  else if ← accept "0o" then return 8
  else if ← accept "0x" then return 16
  else return 10

def byteCharacter : Scanner WrittenInteger := do
  expect "b'"
  match ← get with
  | '\\' :: 'u' :: _ => failure
  | '\\' :: rest =>
    set rest
    let bytes ← escape true
    expect "'"
    match bytes with
    | [b] => return ⟨false, b.toNat, some "u8"⟩
    | _ => failure
  | c :: rest =>
    set rest
    expect "'"
    if c.toNat < 128 then return ⟨false, c.toNat, some "u8"⟩ else failure
  | [] => failure

/-- The greatest number that may stand without a width behind a base other than
ten. -/
def greatestWithoutWidth (negative : Bool) : Nat :=
  if negative then 9223372036854775808 else 18446744073709551615

def integer : Scanner WrittenInteger := do
  let negative ← sign
  let base ← base
  let digits ← takeWhile inInteger
  if digits.isEmpty || digits.head? = some '_' then failure
  else
    let suffix := String.ofList (← takeWhile continuesName)
    match number? base digits with
    | none => failure
    | some magnitude =>
      if suffix = "" then
        if base = 10 || magnitude ≤ greatestWithoutWidth negative then
          return ⟨negative, magnitude, none⟩
        else failure
      else
        match widths.lookup suffix with
        | some (most, least) =>
          if magnitude ≤ (if negative then least else most) then
            return ⟨negative, magnitude, some suffix⟩
          else failure
        | none => failure

/-! ## Decimal numbers -/

def inDecimal (c : Char) : Bool :=
  c.isDigit || c = 'e' || c = 'E' || c = '.' || c = '+' || c = '-' || c = '_'

/-- Whether some characters are a decimal number, without blanks in it. -/
def isDecimal (chars : List Char) : Bool :=
  let unsigned (l : List Char) := match l with
    | '+' :: rest | '-' :: rest => rest
    | _ => l
  let chars := unsigned chars
  let whole := chars.takeWhile Char.isDigit
  let (fraction, rest) := match chars.dropWhile Char.isDigit with
    | '.' :: rest => (rest.takeWhile Char.isDigit, rest.dropWhile Char.isDigit)
    | rest => ([], rest)
  let exponent := match rest with
    | 'e' :: rest | 'E' :: rest =>
      !(unsigned rest).isEmpty && (unsigned rest).all Char.isDigit
    | _ => rest.isEmpty
  !(whole.isEmpty && fraction.isEmpty) && exponent

/-- Whether every underscore stands where one may: anywhere but before the first
digit and right behind the point. -/
def underscoresFit : Bool → List Char → Bool
  | _, [] => true
  | allowed, c :: rest =>
    if c = '_' then allowed && underscoresFit allowed rest
    else if c = '.' then underscoresFit false rest
    else if c = '+' || c = '-' then underscoresFit allowed rest
    else underscoresFit true rest

/-- The characters of which a decimal number may consist, up to the two dots of
a range. -/
def decimalRun : List Char → List Char
  | [] => []
  | c :: rest =>
    if !inDecimal c || (c = '.' && rest.head? = some '.') then []
    else c :: decimalRun rest

def oddNumbers : List String :=
  ["inf", "NaN", "inff32", "inff64", "NaNf32", "NaNf64"]

def oneOf : List String → Scanner String
  | [] => failure
  | word :: others => do
    if ← acceptWord word then return word else oneOf others

def decimal : Scanner String :=
  oneOf (oddNumbers ++ oddNumbers.map ("+" ++ ·) ++ oddNumbers.map ("-" ++ ·))
    <|> do
    let input ← get
    let chars := decimalRun input
    set (input.drop chars.length)
    let digits := chars.filter (· ≠ '_')
    if !underscoresFit false chars || !isDecimal digits then failure
    else
      if !(← acceptWord "f32") then
        let _ ← acceptWord "f64"
      return String.ofList digits

/-! ## Numbers of either kind -/

def number : Scanner WrittenNumber := do
  let input ← get
  let body := match input with
    | '+' :: rest | '-' :: rest => rest
    | _ => input
  if (body.takeWhile inInteger).length < (decimalRun body).length then
    return .decimal (← decimal)
  else
    (WrittenNumber.integer <$> integer) <|> (WrittenNumber.decimal <$> decimal)

def numberOrByte : Scanner WrittenNumber := do
  if ← sees "b'" then return .integer (← byteCharacter) else number

/-! ## Ranges -/

/-- Takes what follows the first number of a range, if it has one.  The last
number may be missing where the range does not include it. -/
def rangeFrom (first : Option WrittenNumber) : Scanner SettingValue := do
  expect ".."
  if ← accept "=" then return .range first (some (← numberOrByte)) true
  else
    let last ← (some <$> numberOrByte) <|> return none
    return .range first last false

def afterNumber (n : WrittenNumber) : Scanner SettingValue := do
  if ← sees ".." then rangeFrom (some n) else return .number n

def numberOrRange : Scanner SettingValue := do
  if ← sees ".." then rangeFrom none else afterNumber (← numberOrByte)

end Redelivery.Scanner
