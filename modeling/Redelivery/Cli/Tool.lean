import Redelivery.Cli.Arguments
import Redelivery.Cli.Report
import Redelivery.Node

/-!
# The ledger tool

A tool for a ledger file while no node uses it: list what is pending, show one
message, list the counters, drop what has expired.
-/

namespace Redelivery.Cli

/-- What the tool prints, and the status that it ends with. -/
structure Outcome where
  status : Nat
  output : String
  errors : String
deriving DecidableEq

inductive ToolError where
  | settings (cause : SettingsError)
  | ledger (cause : LedgerError)
  /-- The settings keep the ledger in memory, where there is nothing to look
  at. -/
  | inMemory
  | noLedger (path : Path)
  | noRecord (id : MessageId)
deriving DecidableEq

namespace ToolError

def message : ToolError → String
  | settings cause => cause.message
  | ledger cause => cause.message
  | inMemory =>
    "The configured ledger is memory-backed; pass --ledger explicitly"
  | noLedger path => "No ledger found at " ++ path.text
  | noRecord id => "No record for message " ++ id.text

/-- What lies behind a failure, the nearest first. -/
def causes : ToolError → List String
  | ledger cause => cause.causes
  | _ => []

/-- The printed form of a cause: a label before its first line, blanks before
the others. -/
def causeText (label cause : String) : String :=
  let margin := String.ofList (List.replicate (4 + label.length) ' ')
  "    " ++ label ++ cause.replace "\n" ("\n" ++ margin)

def text (e : ToolError) : String :=
  let line (entry : String × Nat) : String :=
    causeText (if e.causes.length = 1 then "" else toString entry.2 ++ ": ")
      entry.1
  let behind := if e.causes.isEmpty then [] else
    "" :: "Caused by:" :: e.causes.zipIdx.map line
  lines (("Error: " ++ e.message) :: behind)

end ToolError

/-- The file and the settings that a command line asks for.  A ledger that is
named needs no settings, and those that make no sense do not count then. -/
def choose (a : Arguments) (named : Option String) :
    Program (Except ToolError (Path × ResendConfig)) := do
  let settings ← match a.settings, a.ledger with
    | some path, _ => Settings.load path
    | none, some _ =>
      (fun found => .ok (found.toOption.getD .standard)) <$> Settings.find named
    | none, none => Settings.find named
  match settings with
  | .error cause => return .error (.settings cause)
  | .ok settings =>
    match a.ledger, settings.store with
    | some path, _ => return .ok (path, settings.resend)
    | none, .file path => return .ok (path, settings.resend)
    | none, .memory => return .error .inMemory

def loadThere (f : LedgerFile) (now : UInt64) :
    Program (Except ToolError Ledger) := do
  match ← Settings.firstThere [f.path] with
  | none => return .error (.noLedger f.path)
  | some _ => return (← f.loadLive now).mapError .ledger

def prune (f : LedgerFile) (dryRun : Bool) (now : UInt64) :
    Program (Except ToolError String) := do
  match ← f.load with
  | .error cause => return .error (.ledger cause)
  | .ok none => return .ok (lines ["No ledger found at " ++ f.path.text])
  | .ok (some l) =>
    let dropped := toString (l.expiredCount now) ++ " expired record(s)"
    if l.expiredCount now = 0 then return .ok (lines ["Nothing to prune"])
    else if dryRun then return .ok (lines ["Would remove " ++ dropped])
    else
      match ← f.save (l.prune now) with
      | .error cause => return .error (.ledger cause)
      | .ok () =>
        return .ok (lines
          ["Removed " ++ dropped ++ ", " ++ toString (l.prune now).size ++
            " remaining"])

def perform (f : LedgerFile) (config : ResendConfig) (now : UInt64) :
    Command → Program (Except ToolError String)
  | .pending => return (← loadThere f now).map fun l => pendingReport l now
  | .show id => do
    match ← loadThere f now with
    | .error cause => return .error cause
    | .ok l =>
      match l.get? id with
      | none => return .error (.noRecord id)
      | some r => return .ok (showReport config l now id r)
  | .attempts => return (← loadThere f now).map attemptsReport
  | .prune dryRun => prune f dryRun now

def runArguments (a : Arguments) (named : Option String) (now : UInt64) :
    Program (Except ToolError String) := do
  match ← choose a named with
  | .error cause => return .error cause
  | .ok (path, config) =>
    match LedgerFile.at? path with
    | .error cause => return .error (.ledger (.path cause))
    | .ok f => perform f config now a.command

def versionText : String := lines ["heraldctl 0.0.1"]

def usageText : String :=
  lines ["error: the command line makes no sense", "",
    "Usage: heraldctl [OPTIONS] <COMMAND>", "",
    "For more information, try '--help'."]

def helpText : Option Topic → String
  | none =>
    lines ["Inspect the herald retry ledger", "",
      "Usage: heraldctl [OPTIONS] <COMMAND>", "",
      "Commands:",
      "  pending   List messages whose delivery is still pending",
      "  show      Show everything recorded for a message",
      "  attempts  List resend attempt counters",
      "  prune     Remove expired records from the ledger file",
      "  help      Print this message or the help of the given subcommand(s)",
      "",
      "Options:",
      "  -c, --config <CONFIG>  Path to the configuration file " ++
        "(defaults to the usual search order)",
      "  -l, --ledger <LEDGER>  Path to the ledger file, " ++
        "overriding the configuration",
      "  -h, --help             Print help",
      "  -V, --version          Print version"]
  | some .pending =>
    lines ["List messages whose delivery is still pending", "",
      "Usage: heraldctl pending", "", "Options:", "  -h, --help  Print help"]
  | some .show =>
    lines ["Show everything recorded for a message", "",
      "Usage: heraldctl show <MESSAGE_ID>", "", "Arguments:",
      "  <MESSAGE_ID>  Message ID to show", "", "Options:",
      "  -h, --help  Print help"]
  | some .attempts =>
    lines ["List resend attempt counters", "", "Usage: heraldctl attempts", "",
      "Options:", "  -h, --help  Print help"]
  | some .prune =>
    lines ["Remove expired records from the ledger file", "",
      "Usage: heraldctl prune [OPTIONS]", "", "Options:",
      "      --dry-run  Only report what would be removed",
      "  -h, --help     Print help"]

/-- The tool as a whole, run with some arguments while a variable names settings
or not. -/
def run (arguments : List String) (named : Option String) (now : UInt64) :
    Program Outcome := do
  match Request.ofArguments arguments with
  | .refuse => return ⟨2, "", usageText⟩
  | .version => return ⟨0, versionText, ""⟩
  | .help topic => return ⟨0, helpText topic, ""⟩
  | .run a =>
    match ← runArguments a named now with
    | .ok output => return ⟨0, output, ""⟩
    | .error cause => return ⟨1, "", cause.text⟩

end Redelivery.Cli
