import Redelivery.Resend.Settle
import Redelivery.Settings.Basic

/-!
# A node

A node finds and loads its settings, opens the store that they name, and runs a
resend service over the ledger in it.  When it is told to stop, it shuts the
service down and saves the ledger.
-/

namespace Redelivery

/-! ## Settings -/

def settingsVariable : String := "HERALD_CONFIG"

/-- Where a settings document is looked for if no variable names one. -/
def settingsPaths : List Path :=
  [⟨"./herald.config.ron"⟩, ⟨"/etc/herald/herald.config.ron"⟩]

inductive SettingsError where
  | unreadable (path : Path) (cause : DiskError)
  /-- The document says nothing that makes sense. -/
  | invalid (path : Path)
  | missing (path : Path)
  /-- No document is where one is looked for. -/
  | nowhere
deriving DecidableEq

def SettingsError.message : SettingsError → String
  | unreadable path cause =>
    "Failed to read config from " ++ path.text ++ ": " ++ cause.message
  | invalid path => "Invalid config in " ++ path.text
  | missing path =>
    settingsVariable ++ " points to non-existent file: " ++ path.text
  | nowhere =>
    "No configuration file found. Tried:\n  - " ++ settingsVariable ++
      " environment variable\n" ++
      "\n".intercalate (settingsPaths.map fun p => "  - " ++ p.text)

namespace Settings

def load (path : Path) : Program (Except SettingsError Settings) :=
  .read path fun
    | .error cause => .done (.error (.unreadable path cause))
    | .ok bytes =>
      match Text.Utf8.decode bytes with
      | .error _ => .done (.error (.unreadable path .notText))
      | .ok text =>
        match ofDocument? text with
        | some settings => .done (.ok settings)
        | none => .done (.error (.invalid path))

/-- The first of some paths that leads to something. -/
def firstThere : List Path → Program (Option Path)
  | [] => .done none
  | path :: others =>
    .look path fun
      | .ok _ => .done (some path)
      | .error _ => firstThere others

/-- Finds the settings document: the one that the variable names, or the first
that is where one is looked for. -/
def locate (named : Option String) : Program (Except SettingsError Path) := do
  match named with
  | some text =>
    match ← firstThere [⟨text⟩] with
    | some path => return .ok path
    | none => return .error (.missing ⟨text⟩)
  | none =>
    match ← firstThere settingsPaths with
    | some path => return .ok path
    | none => return .error .nowhere

def find (named : Option String) : Program (Except SettingsError Settings) := do
  match ← locate named with
  | .ok path => load path
  | .error cause => return .error cause

/-- The record of a message that has just been handed to the network. -/
def record (s : Settings) (now : UInt64) (id : MessageId)
    (payload : ConfidentialMessage) (sender : Sender) (receiver : NetworkId)
    (status : DeliveryStatus) : Record :=
  .new now id payload sender receiver status s.recordTtl

end Settings

/-! ## Stores -/

inductive OpenStore where
  | memory (kept : Option Ledger)
  | file (file : LedgerFile)

namespace OpenStore

def ofSettings (s : Settings) : Program (Except LedgerError OpenStore) := do
  match s.store with
  | .memory => return .ok (.memory none)
  | .file path =>
    match LedgerFile.at? path with
    | .error cause => return .error (.path cause)
    | .ok f =>
      match ← f.prepare with
      | .error cause => return .error cause
      | .ok () => return .ok (.file f)

def load : OpenStore → Program (Except LedgerError (Option Ledger))
  | memory kept => .done (.ok kept)
  | file f => f.load

/-- Puts a ledger in the place of what the store holds; gives the store
afterwards. -/
def save (s : OpenStore) (l : Ledger) :
    Program (Except LedgerError Unit × OpenStore) := do
  match s with
  | memory _ => return (.ok (), .memory (some l))
  | file f => return (← f.save l, s)

end OpenStore

/-! ## Service -/

/-- Opens the store, loads the ledger, and starts a service over it in
surroundings that are there already. -/
def Settings.build (settings : Settings) (around : Service) :
    Program (Except LedgerError (OpenStore × Service)) := do
  match ← OpenStore.ofSettings settings with
  | .error cause => return .error cause
  | .ok store =>
    match ← store.load with
    | .error cause => return .error cause
    | .ok kept =>
      let fresh := { around with config := settings.resend, kept }.reload
      return .ok (store, fresh.step .start)

inductive Signal where
  | shutdown
  | finalised
deriving DecidableEq

/-- Whether a node stops: any signal stops it, however many were missed before,
and so does the end of all signals. -/
def stops (signals : List Signal) (ended : Bool) : Bool :=
  !signals.isEmpty || ended

/-- Shuts a service down and saves its ledger. -/
def Service.serve (s : Service) (store : OpenStore) :
    Program (Except LedgerError Unit × OpenStore × Service) := do
  let stopped := s.step .shutdown
  let (result, store) ← store.save stopped.ledger
  return (result, store, stopped)

end Redelivery
