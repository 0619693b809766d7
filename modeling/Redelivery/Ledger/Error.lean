import Redelivery.Binary.Reader
import Redelivery.Disk.Tree

/-!
# Failures of the ledger

Why a path may not hold a ledger, why the bytes of a file are no ledger, and why
a ledger could not be loaded or saved; with the wording of each, and of the
chain of causes behind it.
-/

namespace Redelivery

inductive PathError where
  | goesUp (path : Path)
  | notAbsolute (path : Path)
  | systemDirectory (directory : Path) (path : Path)
  | isDirectory (path : Path)
deriving DecidableEq

def PathError.message : PathError → String
  | goesUp path => "Ledger path cannot contain '..' components: " ++ path.text
  | notAbsolute path => "Ledger path must be absolute: " ++ path.text
  | systemDirectory directory path =>
    "Ledger path cannot be in system directory " ++ directory.text ++
      ": " ++ path.text
  | isDirectory path => "Ledger path is a directory: " ++ path.text

def formatVersion : UInt8 := 1

inductive FormatError where
  | emptyFile
  | unsupportedVersion (found : UInt8)
  | malformed (cause : Binary.ReadError)
  /-- The ledger ends before the file does. -/
  | trailingBytes (count : Nat)
deriving DecidableEq

namespace FormatError

def message : FormatError → String
  | emptyFile => "Corrupted ledger data: empty ledger file"
  | unsupportedVersion found =>
    "Unsupported ledger format version " ++ toString found.toNat ++
      ", expected " ++
      toString formatVersion.toNat
  | malformed cause => "Bincode decode error: " ++ cause.message
  | trailingBytes count =>
    "Corrupted ledger data: " ++ toString count ++
      " trailing bytes after ledger snapshot"

/-- What lies behind a cause, the nearest first. -/
def causes : FormatError → List String
  | malformed cause =>
    cause.message :: match cause with
      | .invalidText e => [e.message]
      | _ => []
  | _ => []

end FormatError

inductive LedgerError where
  | disk (cause : DiskError)
  | format (cause : FormatError)
  | path (cause : PathError)
  /-- A store that was told to refuse did so. -/
  | saveRefused
  | waitElapsed
deriving DecidableEq

namespace LedgerError

def message : LedgerError → String
  | disk cause => "I/O error: " ++ cause.message
  | format cause => "Serialization error: " ++ cause.message
  | path cause => "Ledger validation error: " ++ cause.message
  | saveRefused => "Internal error: Injected save failure"
  | waitElapsed =>
    "Internal error: Timeout waiting for saves: deadline has elapsed"

/-- What lies behind a failure, the nearest first. -/
def causes : LedgerError → List String
  | disk cause => [cause.message]
  | format cause => cause.message :: cause.causes
  | path cause => [cause.message]
  | _ => []

end LedgerError

end Redelivery
