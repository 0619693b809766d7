import Redelivery.Bytes

/-!
# Settings as values

What a settings document says before anything is made of it: records with named
fields, lists, maps, texts, numbers, and how deep these stand within each other.
-/

namespace Redelivery

structure WrittenInteger where
  negative : Bool
  magnitude : Nat
  /-- The width that is written behind the digits. -/
  suffix : Option String
deriving DecidableEq, Inhabited

inductive WrittenNumber where
  | integer (number : WrittenInteger)
  | decimal (text : String)
deriving DecidableEq, Inhabited

/-- A value of a settings document. -/
inductive SettingValue where
  | unit
  | name (text : String)
  | truth (value : Bool)
  | number (number : WrittenNumber)
  /-- All numbers from one on up to another; either may be missing. -/
  | range (first last : Option WrittenNumber) (inclusive : Bool)
  | text (text : String)
  | character (value : Char)
  | bytes (bytes : Bytes)
  | option (value : Option SettingValue)
  | list (items : List SettingValue)
  | map (pairs : List (SettingValue × SettingValue))
  | tuple (name : Option String) (items : List SettingValue)
  | record (name : Option String) (fields : List (String × SettingValue))
deriving Inhabited

namespace SettingValue

/-- The whole number, if it has no sign and no more than a number of digits
would allow.  A width that is written behind it has to be the expected one. -/
def natural? (most : Nat) (suffix : String) : SettingValue → Option Nat
  | number (.integer ⟨negative, magnitude, written⟩) =>
    if written.all (· = suffix) &&
      magnitude ≤ (if negative then 0 else most) then some magnitude
    else none
  | _ => none

def uint64? (v : SettingValue) : Option UInt64 :=
  (v.natural? (UInt64.size - 1) "u64").map UInt64.ofNat

def uint32? (v : SettingValue) : Option UInt32 :=
  (v.natural? (UInt32.size - 1) "u32").map UInt32.ofNat

/-! ## Depth -/

mutual

/-- How many levels a value takes.  A value that holds others between marks
takes one level, each of them takes another, and its own below that; an option
takes one level, and what it holds takes its own below that. -/
def levels : SettingValue → Nat
  | option (some v) => v.levels + 1
  | list items => levelsOfItems items
  | map pairs => levelsOfPairs pairs
  | tuple _ items => levelsOfItems items
  | record _ fields => levelsOfFields fields
  | _ => 0

def levelsOfItems : List SettingValue → Nat
  | [] => 1
  | v :: rest => max (v.levels + 2) (levelsOfItems rest)

def levelsOfPairs : List (SettingValue × SettingValue) → Nat
  | [] => 1
  | (k, v) :: rest =>
    max (max (k.levels + 2) (v.levels + 2)) (levelsOfPairs rest)

def levelsOfFields : List (String × SettingValue) → Nat
  | [] => 1
  | (_, v) :: rest => max (v.levels + 2) (levelsOfFields rest)

end

end SettingValue

/-- What a reader makes of the fields of a record: none if one of the known
fields stands twice. -/
def fieldsOnce (known : List String) (fields : List (String × SettingValue)) :
    Option (List (String × SettingValue)) :=
  if known.all fun k => (fields.filter fun f => f.1 = k).length ≤ 1 then
    some fields else none

/-- The value of a field; a field that is missing has a value of its own. -/
def fieldOr {α : Type} (fields : List (String × SettingValue)) (name : String)
    (read : SettingValue → Option α) (missing : α) : Option α :=
  match fields.lookup name with
  | some value => read value
  | none => some missing

end Redelivery
