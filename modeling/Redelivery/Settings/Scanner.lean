import Redelivery.Text.IdentifierRest
import Redelivery.Text.IdentifierStart

/-!
# Scanning settings

A scanner takes a part off the front of a settings document, or refuses.  Here
are the scanners of blanks, comments and names.
-/

namespace Redelivery

/-- Takes something off the front of a document. -/
abbrev Scanner := StateT (List Char) Option

namespace Scanner

/-! ## Characters -/

/-- What may stand between any two parts of a document. -/
def isBlank (c : Char) : Bool :=
  c = ' ' || c = '\t' || c = '\n' || c = '\r' || c = '\x0B' || c = '\x0C' ||
    c = '\u0085' ||
    c = '\u200E' || c = '\u200F' || c = '\u2028' || c = '\u2029'

def startsName (c : Char) : Bool :=
  c = '_' || Text.identifierStart.holds c

def continuesName (c : Char) : Bool :=
  c = '_' || Text.identifierStart.holds c || Text.identifierRest.holds c

def inMarkedName (c : Char) : Bool :=
  c = '.' || c = '+' || c = '-' || continuesName c

/-! ## Elementary scanners -/

def peek : Scanner (Option Char) := fun input => some (input.head?, input)

def sees (text : String) : Scanner Bool := fun input =>
  some (text.toList.isPrefixOf input, input)

def accept (text : String) : Scanner Bool := fun input =>
  if text.toList.isPrefixOf input then
    some (true, input.drop text.toList.length)
  else some (false, input)

def expect (text : String) : Scanner Unit := do
  if ← accept text then return () else failure

def takeWhile (test : Char → Bool) : Scanner (List Char) := fun input =>
  some (input.takeWhile test, input.dropWhile test)

def acceptWord (word : String) : Scanner Bool := fun input =>
  let rest := input.drop word.toList.length
  if word.toList.isPrefixOf input && !rest.head?.any continuesName then
    some (true, rest)
  else some (false, input)

/-! ## Blanks and comments -/

/-- What follows a comment between marks; such comments stand within each
other. -/
def afterComment : Nat → List Char → Option (List Char)
  | _, [] => none
  | depth, '/' :: '*' :: rest => afterComment (depth + 1) rest
  | depth, '*' :: '/' :: rest =>
    if depth ≤ 1 then some rest else afterComment (depth - 1) rest
  | depth, _ :: rest => afterComment depth rest

/-- What follows blanks and comments, of which there are at most so many. -/
def afterBlanks : Nat → List Char → Option (List Char)
  | 0, input => some input
  | most + 1, input =>
    match input.dropWhile isBlank with
    | '/' :: '/' :: rest => afterBlanks most (rest.dropWhile (· ≠ '\n'))
    | '/' :: '*' :: rest => (afterComment 1 rest).bind (afterBlanks most)
    | '/' :: _ => none
    | rest => some rest

def blanks : Scanner Unit := fun input =>
  (afterBlanks (input.length + 1) input).map fun rest => ((), rest)

/-- Takes blanks, a comma if there is one, and blanks after it. -/
def comma : Scanner Bool := do
  blanks
  if ← accept "," then
    blanks
    return true
  else return false

/-! ## Names -/

/-- What a name cannot start with, since a text starts with it. -/
def textMarks : List String :=
  ["b\"", "b'", "br#", "br\"", "r\"", "r#\"", "r##"]

/-- Takes a name.  One that is marked may hold dots and signs. -/
def identifier : Scanner String := do
  let input ← get
  let first := input.head?.getD ' '
  if !startsName first || textMarks.any fun mark =>
    mark.toList.isPrefixOf input then failure
  else if ← accept "r#" then
    let name ← takeWhile inMarkedName
    if name.isEmpty then failure else return String.ofList name
  else
    let name ← takeWhile continuesName
    if (← peek).any inMarkedName then failure else return String.ofList name

end Scanner

end Redelivery
