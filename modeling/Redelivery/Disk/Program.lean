import Redelivery.Disk.Tree

/-!
# Programs of file operations

A program asks the operating system for one operation after the other and goes
on by the answer.  Run on a file tree, each operation takes place or is refused
as the tree says; but a program is also a value of its own, so that one can say
what is left behind when it is stopped between two operations.
-/

namespace Redelivery

/-- A program that works on files and ends with a result. -/
inductive Program (α : Type) where
  | done (result : α)
  | look (path : Path) (next : Except DiskError Entry → Program α)
  | read (path : Path) (next : Except DiskError Bytes → Program α)
  | write (path : Path) (bytes : Bytes)
      (next : Except DiskError Unit → Program α)
  | move (source goal : Path) (next : Except DiskError Unit → Program α)
  | remove (path : Path) (next : Except DiskError Unit → Program α)
  | makeDirectory (path : Path) (next : Except DiskError Unit → Program α)

namespace Program

variable {α β : Type}

def bind (first : Program α) (second : α → Program β) : Program β :=
  match first with
  | done result => second result
  | look path next => .look path fun answer => (next answer).bind second
  | read path next => .read path fun answer => (next answer).bind second
  | write path bytes next =>
    .write path bytes fun answer => (next answer).bind second
  | move source goal next =>
    .move source goal fun answer => (next answer).bind second
  | remove path next => .remove path fun answer => (next answer).bind second
  | makeDirectory path next =>
    .makeDirectory path fun answer => (next answer).bind second

instance : Monad Program where
  pure := .done
  bind := .bind

/-- The answer to an operation, and the tree that it leaves. -/
def outcome (d : Disk) : Except DiskError Disk → Except DiskError Unit × Disk
  | .ok changed => (.ok (), changed)
  | .error cause => (.error cause, d)

def run (p : Program α) (d : Disk) : α × Disk :=
  match p with
  | done result => (result, d)
  | look path next => (next (d.look path)).run d
  | read path next => (next (d.readFile path)).run d
  | write path bytes next =>
    let (answer, changed) := outcome d (d.writeFile path bytes)
    (next answer).run changed
  | move source goal next =>
    let (answer, changed) := outcome d (d.moveFile source goal)
    (next answer).run changed
  | remove path next =>
    let (answer, changed) := outcome d (d.removeFile path)
    (next answer).run changed
  | makeDirectory path next =>
    let (answer, changed) := outcome d (d.makeDirectory path)
    (next answer).run changed

theorem run_bind (first : Program α) (second : α → Program β) (d : Disk) :
    (first >>= second).run d =
      (second (first.run d).1).run (first.run d).2 := by
  change (first.bind second).run d = _
  induction first generalizing d <;> simp_all [bind, run]

/-- Whether a path leads to something; a path that leads nowhere is no error. -/
def exists? (path : Path) : Program (Except DiskError Bool) :=
  .look path fun
    | .ok _ => .done (.ok true)
    | .error .notFound => .done (.ok false)
    | .error cause => .done (.error cause)

def isDirectory (path : Path) : Program Bool :=
  .look path fun
    | .ok .directory => .done true
    | _ => .done false

/-- Makes the directories of a list, each of which lies in the next one, if need
be: first the ones that a directory lies in, where they are missing. -/
def makeDirectories : List Path → Program (Except DiskError Unit)
  | [] => .done (.ok ())
  | path :: outer =>
    .makeDirectory path fun
      | .ok () => .done (.ok ())
      | .error .notFound => do
        match ← makeDirectories outer with
        | .error cause => return .error cause
        | .ok () => settle path
      | .error cause => accept path cause
where
  settle (path : Path) : Program (Except DiskError Unit) :=
    .makeDirectory path fun
      | .ok () => .done (.ok ())
      | .error cause => accept path cause
  accept (path : Path) (cause : DiskError) :
    Program (Except DiskError Unit) := do
    if ← isDirectory path then return .ok () else return .error cause

def writeWithin (path : Path) (bytes : Bytes) :
    Program (Except DiskError Unit) := do
  match ← makeDirectories ((path.parent?.map Path.ancestors).getD []) with
  | .error cause => return .error cause
  | .ok () => .write path bytes .done

end Program

end Redelivery
