import Redelivery.Settings.Scanner.Number

/-!
# Settings documents

The values of a settings document, and the document as a whole: headings that
turn ways of writing on or say what the document is, one value, and nothing
after it.  Values stand within each other to a limited depth only.
-/

namespace Redelivery

/-- Ways of writing that a document turns on. -/
structure Extensions where
  implicitSome : Bool := false
  unwrapNewtypes : Bool := false
  unwrapVariantNewtypes : Bool := false
  /-- Every record has to be called by its name. -/
  explicitNames : Bool := false
deriving DecidableEq, Inhabited

namespace Extensions

def turnOn? (x : Extensions) (name : String) : Option Extensions :=
  if name = "implicit_some" then some { x with implicitSome := true }
  else if name = "unwrap_newtypes" then some { x with unwrapNewtypes := true }
  else if name = "unwrap_variant_newtypes" then
    some { x with unwrapVariantNewtypes := true }
  else if name = "explicit_struct_names" then
    some { x with explicitNames := true }
  else none

end Extensions

namespace Scanner

/-! ## Headings -/

def expectAll : List String → Scanner Unit
  | [] => return ()
  | mark :: others => do
    expect mark
    blanks
    expectAll others

def extensionNames (x : Extensions) : Nat → Scanner Extensions
  | 0 => failure
  | most + 1 => do
    match x.turnOn? (← identifier) with
    | none => failure
    | some x =>
      let another ← comma
      if !(← peek).any continuesName then return x
      else if another then extensionNames x most
      else failure

/-- Takes the names of what a heading turns on, and the parentheses around
them. -/
def enabled (x : Extensions) : Scanner Extensions := do
  expectAll ["("]
  let x ← extensionNames x ((← get).length + 1)
  blanks
  expect ")"
  return x

def givenText : Scanner String := do
  expectAll ["="]
  text

/-- Takes what stands between the brackets of a heading.  One that says of what
type the document is, or what its schema is, turns nothing on. -/
def heading (x : Extensions) : Scanner Extensions := do
  if ← accept "enable" then
    blanks
    enabled x
  else
    if !(← accept "type") then expect "schema"
    blanks
    let _ ← givenText
    return x

def headings (x : Extensions) : Nat → Scanner Extensions
  | 0 => return x
  | most + 1 => do
    if !(← sees "#") then return x
    else
      expectAll ["#", "!", "["]
      let x ← heading x
      blanks
      expectAll ["]"]
      headings x most

/-! ## Values -/

/-- Takes values with commas between them, and perhaps one behind the last, up
to a mark that stays; at most so many. -/
def separated {α : Type} (closing : Char) (item : Scanner α) :
    Nat → Scanner (List α)
  | 0 => failure
  | most + 1 => do
    blanks
    if (← peek) = some closing then return []
    else
      let first ← item
      if ← comma then return first :: (← separated closing item most)
      else if (← peek) = some closing then return [first]
      else failure

def enclosed {α : Type} (closing : Char) (item : Scanner α) :
    Scanner (List α) := do
  let items ← separated closing item ((← get).length + 1)
  blanks
  expect (String.singleton closing)
  return items

def pair {κ : Type} (key : Scanner κ) (value : Scanner SettingValue) :
    Scanner (κ × SettingValue) := do
  let k ← key
  blanks
  expect ":"
  blanks
  return (k, ← value)

def seesField : Scanner Bool := fun input =>
  let field : Scanner Unit := do
    blanks
    let _ ← identifier
    blanks
    expect ":"
  some ((field input).isSome, input)

/-- Takes what stands between parentheses, the first of which has been taken. -/
def parenthesised (name : Option String) (item : Scanner SettingValue) :
    Scanner SettingValue := do
  if ← seesField then
    return .record name (← enclosed ')' (pair identifier item))
  else return .tuple name (← enclosed ')' item)

def optional (x : Extensions) (item : Scanner SettingValue) :
    Scanner SettingValue := do
  blanks
  if ← accept "(" then
    blanks
    if !x.unwrapVariantNewtypes then
      let value ← item
      let _ ← comma
      expect ")"
      return .option (some value)
    else if ← accept ")" then return .option (some .unit)
    else
      match ← parenthesised none item with
      | .tuple _ [value] => return .option (some value)
      | several => return .option (some several)
  else if x.implicitSome then return .option (some (← item))
  else failure

/-- Takes one value, in which `item` takes every value that stands within it. -/
def valueWith (x : Extensions) (item : Scanner SettingValue) :
    Scanner SettingValue := do
  if ← acceptWord "true" then return .truth true
  else if ← acceptWord "false" then return .truth false
  else if ← acceptWord "Some" then optional x item
  else if ← acceptWord "None" then return .option none
  else if ← accept "()" then return .unit
  else
    let odd ← (some <$> oneOf oddNumbers) <|> return none
    match odd with
    | some word => afterNumber (.decimal word)
    | none =>
      let name ← (some <$> identifier) <|> return none
      match name with
      | some word =>
        blanks
        if ← accept "(" then parenthesised (some word) item
        else return .name word
      | none =>
        match ← get with
        | '(' :: rest =>
          set rest
          parenthesised none item
        | '[' :: rest =>
          set rest
          .list <$> enclosed ']' item
        | '\x7b' :: rest =>
          set rest
          .map <$> enclosed '\x7d' (pair item item)
        | '"' :: _ | 'r' :: _ => .text <$> text
        | 'b' :: '\'' :: _ => numberOrRange
        | 'b' :: _ => .bytes <$> byteString
        | '\'' :: _ => .character <$> character
        | _ => numberOrRange

/-- Takes one value, in which others stand within each other at most so many
times. -/
def value (x : Extensions) : Nat → Scanner SettingValue
  | 0 => failure
  | most + 1 => valueWith x (value x most)

def mostLevels : Nat := 128

/-- Takes a whole document.  No value stands within others more often than there
are levels, since each takes one at least. -/
def document : Scanner (Extensions × SettingValue) := do
  blanks
  let x ← headings {} ((← get).length + 1)
  let v ← value x (mostLevels + 1)
  blanks
  if (← get).isEmpty && v.levels ≤ mostLevels then return (x, v) else failure

end Scanner

def SettingValue.ofDocument? (text : String) :
    Option (Extensions × SettingValue) :=
  (Scanner.document text.toList).map Prod.fst

end Redelivery
