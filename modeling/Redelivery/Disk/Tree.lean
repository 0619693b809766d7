import Redelivery.Bytes
import Redelivery.Disk.Path
import Redelivery.Table

/-!
# File trees

A tree of files and directories, and what the operating system does to it: look
at an entry, read, write, move and remove a file, make a directory.  Each
operation either takes place as a whole or gives the cause for which it does
not, and then leaves the tree as it is.
-/

namespace Redelivery

inductive DiskError where
  | notFound
  | alreadyExists
  | busy
  | notDirectory
  | isDirectory
  | nameTooLong
  /-- The path holds the character that ends texts of the system. -/
  | zeroInPath
  /-- The file was read, but is not a text. -/
  | notText
  | denied
  | other (wording : String)
deriving DecidableEq, Inhabited

def DiskError.message : DiskError → String
  | notFound => "No such file or directory (os error 2)"
  | alreadyExists => "File exists (os error 17)"
  | busy => "Device or resource busy (os error 16)"
  | notDirectory => "Not a directory (os error 20)"
  | isDirectory => "Is a directory (os error 21)"
  | nameTooLong => "File name too long (os error 36)"
  | zeroInPath => "file name contained an unexpected NUL byte"
  | notText => "stream did not contain valid UTF-8"
  | denied => "Permission denied (os error 13)"
  | other wording => wording

/-- What stands at a place of the tree. -/
inductive Entry where
  | file (bytes : Bytes)
  | directory
deriving DecidableEq, Inhabited

/-- A place in the tree: the names on the way from the root. -/
abbrev Place := List String

/-- A tree of files, and the directory that relative paths start from. -/
structure Disk where
  entries : Table Place Entry
  workingDirectory : Place
deriving DecidableEq, Inhabited

namespace Disk

/-- What stands at a place; the root is always a directory. -/
def entry? (d : Disk) (place : Place) : Option Entry :=
  if place = [] then some .directory else d.entries.get? place

def put (d : Disk) (place : Place) (e : Entry) : Disk :=
  { d with entries := d.entries.insert place e }

def drop (d : Disk) (place : Place) : Disk :=
  { d with entries := d.entries.erase place }

def dropTree (d : Disk) (place : Place) : Disk :=
  { d with entries := d.entries.filter fun q _ => !place.isPrefixOf q }

/-- The greatest number of bytes of one name. -/
def longestName : Nat := 255

/-- The greatest number of bytes of a path. -/
def longestPath : Nat := 4095

/-- How a path ends: with a name, or with dots that stand for a directory. -/
inductive Ending where
  /-- The path ends with a name; a slash after it asks for a directory. -/
  | name (text : String) (wantsDirectory : Bool)
  /-- The path ends with a dot, with two dots, or is the root. -/
  | dots

/-- Where the operating system finds a path: the directory before its last part,
and that part. -/
structure Target where
  directory : Place
  ending : Ending

/-- The place that a target stands for. -/
def Target.place (t : Target) : Place :=
  match t.ending with
  | .name text _ => t.directory ++ [text]
  | .dots => t.directory

def enter (d : Disk) (directory : Place) (segment : String) :
    Except DiskError Place :=
  if segment = "." then .ok directory
  else if segment = ".." then .ok directory.dropLast
  else if longestName < segment.utf8ByteSize then .error .nameTooLong
  else
    match d.entry? (directory ++ [segment]) with
    | some .directory => .ok (directory ++ [segment])
    | some (.file _) => .error .notDirectory
    | none => .error .notFound

def follow (d : Disk) (directory : Place) (slash : Bool) :
    List String → Except DiskError Target
  | [] => .ok ⟨directory, .dots⟩
  | [last] =>
    if last = "." then .ok ⟨directory, .dots⟩
    else if last = ".." then .ok ⟨directory.dropLast, .dots⟩
    else if longestName < last.utf8ByteSize then .error .nameTooLong
    else .ok ⟨directory, .name last slash⟩
  | segment :: rest => do
    let next ← d.enter directory segment
    d.follow next slash rest

def target (d : Disk) (p : Path) : Except DiskError Target :=
  let chars := p.text.toList
  let segments := (Path.segments chars).filterMap fun s =>
    if s.isEmpty then none else some (String.ofList s)
  let start := if chars.head? = some '/' then [] else d.workingDirectory
  if chars.contains '\x00' then .error .zeroInPath
  else if chars.isEmpty then .error .notFound
  else if longestPath < p.text.utf8ByteSize then .error .nameTooLong
  else d.follow start (chars.getLast? = some '/') segments

/-- Looks at what a path leads to. -/
def look (d : Disk) (p : Path) : Except DiskError Entry := do
  let t ← d.target p
  match d.entry? t.place, t.ending with
  | none, _ => .error .notFound
  | some (.file _), .name _ true => .error .notDirectory
  | some e, _ => .ok e

def readFile (d : Disk) (p : Path) : Except DiskError Bytes := do
  match ← d.look p with
  | .file bytes => .ok bytes
  | .directory => .error .isDirectory

/-- Makes a file, or gives one that is there other bytes. -/
def writeFile (d : Disk) (p : Path) (bytes : Bytes) :
    Except DiskError Disk := do
  let t ← d.target p
  match t.ending, d.entry? t.place with
  | .dots, _ | .name _ true, _ | .name _ false, some .directory =>
    .error .isDirectory
  | .name _ false, _ => .ok (d.put t.place (.file bytes))

def moveFile (d : Disk) (source goal : Path) : Except DiskError Disk := do
  let s ← d.target source
  let t ← d.target goal
  match t.ending with
  | .dots => .error .busy
  | .name _ slash =>
    match d.entry? s.place with
    | none => .error .notFound
    | some .directory => .error .isDirectory
    | some (.file bytes) =>
      if slash then .error .notDirectory
      else if d.entry? t.place = some .directory then .error .isDirectory
      else .ok ((d.drop s.place).put t.place (.file bytes))

def removeFile (d : Disk) (p : Path) : Except DiskError Disk := do
  let t ← d.target p
  match ← d.look p with
  | .directory => .error .isDirectory
  | .file _ => .ok (d.drop t.place)

def makeDirectory (d : Disk) (p : Path) : Except DiskError Disk := do
  let t ← d.target p
  match t.ending, d.entry? t.place with
  | .dots, _ | _, some _ => .error .alreadyExists
  | .name .., none => .ok (d.put t.place .directory)

def removeAll (d : Disk) (p : Path) : Disk :=
  match d.target p with
  | .ok t => d.dropTree t.place
  | .error _ => d

/-- Everything in a directory, by the text of its path: a file with its size, a
directory with a slash behind it. -/
def listing (d : Disk) (directory : Place) : List (String × Option Nat) :=
  let shown := d.entries.toList.filterMap fun (place, e) =>
    let text := "/" ++ "/".intercalate place
    if directory.isPrefixOf place && place ≠ directory then
      match e with
      | .directory => some (text ++ "/", none)
      | .file bytes => some (text, some bytes.length)
    else none
  shown.mergeSort fun a b => (compare a.1 b.1).isLE

end Disk

end Redelivery
