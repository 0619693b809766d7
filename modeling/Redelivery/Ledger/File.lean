import Redelivery.Disk.Program
import Redelivery.Ledger.Format

/-!
# Ledgers on disk

A ledger file is replaced as a whole: the new ledger is written to a temporary
file beside it, which is then moved into its place.  So whatever interrupts a
save, the file holds the old ledger or the new one.  Paths that go up, that do
not start at the root, or that lie in a directory of the system are not
accepted.
-/

namespace Redelivery

/-- The directories of the system, in which no ledger may lie. -/
def systemDirectories : List Path :=
  [⟨"/etc"⟩, ⟨"/bin"⟩, ⟨"/sbin"⟩, ⟨"/usr/bin"⟩, ⟨"/usr/sbin"⟩, ⟨"/boot"⟩,
    ⟨"/sys"⟩, ⟨"/proc"⟩, ⟨"/dev"⟩]

def PathError.of? (path : Path) : Option PathError :=
  if path.components.contains .parent then some (.goesUp path)
  else if !path.isAbsolute then some (.notAbsolute path)
  else (systemDirectories.find? path.startsWith).map (.systemDirectory · path)

/-- A file for a ledger, at a path that may hold one. -/
structure LedgerFile where
  path : Path
  accepted : PathError.of? path = none

namespace LedgerFile

def standard : LedgerFile :=
  ⟨⟨"/var/lib/herald/resend.ledger"⟩, by decide +kernel⟩

def at? (path : Path) : Except PathError LedgerFile :=
  match h : PathError.of? path with
  | none => .ok ⟨path, h⟩
  | some cause => .error cause

/-- The ledger file that is asked for, or the standard one if none is. -/
def build (path : Option Path) : Except LedgerError LedgerFile :=
  (at? (path.getD standard.path)).mapError .path

/-- The ledger file of a document that gives its path.  The document is read in
a way of its own, which takes up the wording of a refusal. -/
def ofDocument {ε : Type} (refusal : String → ε) (path : Except ε Path) :
    Except ε LedgerFile :=
  match path with
  | .error cause => .error cause
  | .ok path => (at? path).mapError fun cause => refusal cause.message

def temporary (f : LedgerFile) : Path :=
  f.path.withFileName (".tmp_" ++ f.path.fileName?.getD "ledger")

/-- Makes sure that the directory of the file is there, and takes away what a
save that was interrupted has left. -/
def prepare (f : LedgerFile) : Program (Except LedgerError Unit) := do
  if ← Program.isDirectory f.path then
    return .error (.path (.isDirectory f.path))
  match ← makeRoom with
  | .error cause => return .error (.disk cause)
  | .ok () =>
    match ← clear with
    | .error cause => return .error (.disk cause)
    | .ok () => return .ok ()
where
  makeRoom : Program (Except DiskError Unit) := do
    match f.path.parent? with
    | none => return .ok ()
    | some parent =>
      match ← Program.exists? parent with
      | .error cause => return .error cause
      | .ok true => return .ok ()
      | .ok false => Program.makeDirectories parent.ancestors
  clear : Program (Except DiskError Unit) := do
    match ← Program.exists? f.temporary with
    | .error cause => return .error cause
    | .ok false => return .ok ()
    | .ok true => .remove f.temporary .done

/-- Reads the ledger; a file that is not there holds none. -/
def load (f : LedgerFile) : Program (Except LedgerError (Option Ledger)) :=
  .read f.path fun
    | .ok bytes =>
      match Ledger.decode bytes with
      | .ok l => .done (.ok (some l))
      | .error cause => .done (.error (.format cause))
    | .error .notFound => .done (.ok none)
    | .error cause => .done (.error (.disk cause))

/-- Replaces what the file holds: writes the temporary file and moves it into
its place. -/
def replace (f : LedgerFile) (bytes : Bytes) :
    Program (Except LedgerError Unit) :=
  .write f.temporary bytes fun
    | .error cause => .done (.error (.disk cause))
    | .ok () =>
      .move f.temporary f.path fun
        | .error cause => .done (.error (.disk cause))
        | .ok () => .done (.ok ())

def save (f : LedgerFile) (l : Ledger) : Program (Except LedgerError Unit) :=
  f.replace l.encode

/-- Reads the ledger and drops what has expired. -/
def loadLive (f : LedgerFile) (now : UInt64) :
    Program (Except LedgerError Ledger) := do
  match ← f.load with
  | .error cause => return .error cause
  | .ok kept => return .ok (.restored kept now)

end LedgerFile

end Redelivery
