import Redelivery.Cli.Tool
import Std.Time.DateTime.Timestamp

/-!
# The ledger tool as a program

Does on the files of the machine what the tool asks for, prints what it says,
and ends with its status.
-/

namespace Redelivery

/-- The cause that the system gives by number.  Some of its parts put a minus
before it. -/
def DiskError.ofNumber (number : UInt32) (wording : String) : DiskError :=
  let n := if number.toNat < UInt32.size / 2 then number.toNat
    else UInt32.size - number.toNat
  match n with
  | 2 => .notFound
  | 13 => .denied
  | 16 => .busy
  | 17 => .alreadyExists
  | 20 => .notDirectory
  | 21 => .isDirectory
  | 36 => .nameTooLong
  | _ => .other (wording ++ " (os error " ++ toString n ++ ")")

def DiskError.ofRefusal : IO.Error → DiskError
  | .alreadyExists _ n wording | .invalidArgument _ n wording |
    .permissionDenied _ n wording
  | .resourceExhausted _ n wording | .inappropriateType _ n wording |
    .noSuchThing _ n wording
  | .interrupted _ n wording | .noFileOrDirectory _ n wording |
    .otherError n wording
  | .resourceBusy n wording | .resourceVanished n wording |
    .unsupportedOperation n wording
  | .hardwareFault n wording | .unsatisfiedConstraints n wording |
    .illegalOperation n wording
  | .protocolError n wording | .timeExpired n wording => .ofNumber n wording
  | .unexpectedEof => .other "unexpected end of file"
  | .userError wording => .other wording

namespace Machine

/-- Does something with a file, and gives the cause if the system refuses. -/
def attempt {α : Type} (path : Path) (operation : String → IO α) :
    IO (Except DiskError α) := do
  if path.text.toList.contains '\x00' then return .error .zeroInPath
  else return (← (operation path.text).toIO').mapError DiskError.ofRefusal

def read (path : Path) : IO (Except DiskError Bytes) :=
  attempt path fun text => return (← IO.FS.readBinFile text).data.toList

def look (path : Path) : IO (Except DiskError Entry) := do
  match ← read path with
  | .ok bytes => return .ok (.file bytes)
  | .error .isDirectory => return .ok .directory
  | .error cause => return .error cause

def run {α : Type} : Program α → IO α
  | .done result => return result
  | .look path next => do run (next (← look path))
  | .read path next => do run (next (← read path))
  | .write path bytes next => do
    run (next (← attempt path fun text =>
      IO.FS.writeBinFile text ⟨bytes.toArray⟩))
  | .move source goal next => do
    run (next (← attempt source fun text => IO.FS.rename text goal.text))
  | .remove path next =>
    do run (next (← attempt path fun text => IO.FS.removeFile text))
  | .makeDirectory path next =>
    do run (next (← attempt path fun text => IO.FS.createDir text))

def now : IO UInt64 := do
  return UInt64.ofNat
    (← Std.Time.Timestamp.now).toMillisecondsSinceUnixEpoch.toInt.toNat

end Machine

end Redelivery

open Redelivery in
def main (arguments : List String) : IO UInt32 := do
  let named ← IO.getEnv "HERALD_CONFIG"
  let outcome ← Machine.run (Cli.run arguments named (← Machine.now))
  IO.print outcome.output
  IO.eprint outcome.errors
  return UInt32.ofNat outcome.status
