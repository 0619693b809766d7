/-!
# Paths

A path is a text that names a place in a file tree by the names on the way to
it.  Two texts name the same way when they have the same components: repeated
slashes and dots within a path count for nothing.
-/

namespace Redelivery

/-- One part of a path. -/
inductive Component where
  /-- The slash that a path starts with, if it starts at the root. -/
  | root
  /-- A dot at the start of a path that starts elsewhere. -/
  | current
  /-- Two dots: one directory up. -/
  | parent
  | name (text : String)
deriving DecidableEq, Inhabited

/-- A path as it was spelled. -/
structure Path where
  text : String
deriving DecidableEq, Inhabited

namespace Path

/-- The stretches between slashes. -/
def segments : List Char → List (List Char)
  | [] => [[]]
  | c :: rest =>
    if c = '/' then [] :: segments rest
    else
      match segments rest with
      | [] => [[c]]
      | s :: others => (c :: s) :: others

/-- The part that a stretch between slashes stands for within a path. -/
def component? (segment : List Char) : Option Component :=
  if segment = [] || segment = ['.'] then none
  else if segment = ['.', '.'] then some .parent
  else some (.name (String.ofList segment))

/-- The parts of a path, one after the other. -/
def components (p : Path) : List Component :=
  let parts := (segments p.text.toList).filterMap component?
  match segments p.text.toList with
  | [] :: _ :: _ => .root :: parts
  | ['.'] :: _ => .current :: parts
  | _ => parts

def isAbsolute (p : Path) : Bool :=
  p.components.head? == some .root

/-- Whether a path begins with all the parts of another. -/
def startsWith (p start : Path) : Bool :=
  start.components.isPrefixOf p.components

def fileName? (p : Path) : Option String :=
  match p.components.getLast? with
  | some (.name text) => some text
  | _ => none

/-- Stretches without the last ones that stand for no part. -/
def trim (stretches : List (List Char)) : List (List Char) :=
  (stretches.reverse.dropWhile fun s => (component? s).isNone).reverse

/-- The path that is spelled with some stretches. -/
def spelled (stretches : List (List Char)) : Path :=
  if stretches = [[]] then ⟨"/"⟩
  else ⟨String.ofList (['/'].intercalate stretches)⟩

/-- The path without its last part, spelled as it is; none for the root and for
the empty path. -/
def parent? (p : Path) : Option Path :=
  match p.components.getLast? with
  | none | some .root => none
  | some _ =>
    let stretches := segments p.text.toList
    let kept := trim stretches.tail
    if kept = [] then some ⟨""⟩
    else some (spelled (stretches.headD [] :: trim kept.dropLast))

def push (p : Path) (name : String) : Path :=
  match p.text.toList.getLast? with
  | none | some '/' => ⟨p.text ++ name⟩
  | some _ => ⟨p.text ++ "/" ++ name⟩

def withFileName (p : Path) (name : String) : Path :=
  match p.fileName? with
  | some _ => (p.parent?.getD p).push name
  | none => p.push name

/-- The path and what it lies in, the nearest first, up to a number of them. -/
def ancestorsUpTo : Nat → Path → List Path
  | 0, _ => []
  | count + 1, p =>
    match p.parent? with
    | none => []
    | some outer => p :: ancestorsUpTo count outer

/-- The path and what it lies in, the nearest first, without the root. -/
def ancestors (p : Path) : List Path :=
  ancestorsUpTo p.components.length p

end Path

end Redelivery
