import Redelivery.Ledger.File
import Redelivery.Resend.Config
import Redelivery.Settings.Document

/-!
# Settings

What a settings document decides: where the ledger is kept, how long a record
lives, and when messages are sent again.  Every part may be left out, and parts
that are not known are read and left alone.
-/

namespace Redelivery

inductive StoreSetting where
  | memory
  | file (path : Path)
deriving DecidableEq, Inhabited

/-- All that a settings document decides. -/
structure Settings where
  store : StoreSetting := .file LedgerFile.standard.path
  recordTtlSeconds : UInt64 := 864000
  resend : ResendConfig := .standard
deriving DecidableEq, Inhabited

def SettingValue.fields? (x : Extensions) (called : String) :
    SettingValue → Option (List (String × SettingValue))
  | record name? fields => if fits name? then some fields else none
  | tuple name? [] => if fits name? then some [] else none
  | unit => if fits none then some [] else none
  | _ => none
where
  /-- Whether a record may be called so. -/
  fits : Option String → Bool
    | some given => given = called
    | none => !x.explicitNames

namespace ResendConfig

/-- The names of the settings, in the order in which they are listed. -/
def fieldNames : List String :=
  ["resend_interval_ms", "failed_resend_interval_ms", "max_auto_resends",
    "max_manual_resends", "reconnect_sweep_delay_ms"]

def ofFields? (fields : List (String × SettingValue)) :
    Option ResendConfig := do
  let fields ← fieldsOnce fieldNames fields
  let resendInterval ←
    fieldOr fields "resend_interval_ms" SettingValue.uint64?
      standard.resendInterval
  let failedResendInterval ←
    fieldOr fields "failed_resend_interval_ms" SettingValue.uint64?
      standard.failedResendInterval
  let maxAutoResends ←
    fieldOr fields "max_auto_resends" SettingValue.uint32?
      standard.maxAutoResends
  let maxManualResends ←
    fieldOr fields "max_manual_resends" SettingValue.uint32?
      standard.maxManualResends
  let reconnectSweepDelay ←
    fieldOr fields "reconnect_sweep_delay_ms" SettingValue.uint64?
      standard.reconnectSweepDelay
  return ⟨resendInterval, failedResendInterval, maxAutoResends,
    maxManualResends, reconnectSweepDelay⟩

def ofValue? : SettingValue → Option ResendConfig
  | .record _ fields => ofFields? fields
  | .list items =>
    if items.length ≤ fieldNames.length then ofFields? (fieldNames.zip items)
    else none
  | _ => none

end ResendConfig

namespace StoreSetting

/-- How many levels a field of a choice takes at most.  The document and the
ledger take two levels each, and the choice three: one for itself, one for its
fields, and one for each of them. -/
def mostFieldLevels : Nat := Scanner.mostLevels - 7

def ofValue? : SettingValue → Option StoreSetting
  | .name "Memory" => some .memory
  | .record (some "File") fields => do
    guard (fields.all fun f => f.2.levels ≤ mostFieldLevels)
    match (← fieldsOnce ["path"] fields).lookup "path" with
    | some (.text path) => return .file ⟨path⟩
    | _ => none
  | _ => none

end StoreSetting

namespace Settings

def standard : Settings := {}

def recordTtl (s : Settings) : Lifetime :=
  .ofSeconds s.recordTtlSeconds

def ledgerOfValue? (x : Extensions) (v : SettingValue) :
    Option (StoreSetting × UInt64) := do
  let fields ←
    fieldsOnce ["store", "record_ttl_secs"] (← v.fields? x "LedgerConfig")
  let store ← fieldOr fields "store" StoreSetting.ofValue? standard.store
  let ttl ← fieldOr fields "record_ttl_secs" SettingValue.uint64?
      standard.recordTtlSeconds
  return (store, ttl)

def resendOfValue? (x : Extensions) (v : SettingValue) :
    Option ResendConfig := do
  ResendConfig.ofFields? (← v.fields? x "ResendConfig")

def ofDocument? (text : String) : Option Settings := do
  let (x, v) ← SettingValue.ofDocument? text
  let fields ← fieldsOnce ["ledger", "resend"] (← v.fields? x "Herald")
  let (store, recordTtlSeconds) ←
    fieldOr fields "ledger" (ledgerOfValue? x)
      (standard.store, standard.recordTtlSeconds)
  let resend ← fieldOr fields "resend" (resendOfValue? x) standard.resend
  return ⟨store, recordTtlSeconds, resend⟩

end Settings

end Redelivery
