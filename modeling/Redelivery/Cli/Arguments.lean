import Redelivery.Disk.Path
import Redelivery.Ledger.MessageId

/-!
# The command line

What a command line asks for.  Options stand before the command, each at most
once; a value may follow its option as an argument of its own or directly.
-/

namespace Redelivery.Cli

inductive Command where
  | pending
  | show (id : MessageId)
  | attempts
  | prune (dryRun : Bool)
deriving DecidableEq

inductive Topic where
  | pending
  | show
  | attempts
  | prune
deriving DecidableEq

/-- Which ledger to look at, with which settings, and what to do with it. -/
structure Arguments where
  settings : Option Path
  ledger : Option Path
  command : Command
deriving DecidableEq

/-- What a command line asks for. -/
inductive Request where
  | run (arguments : Arguments)
  | version
  | help (topic : Option Topic)
  | refuse
deriving DecidableEq

namespace Topic

def ofWord? (word : String) : Option Topic :=
  if word = "pending" then some .pending
  else if word = "show" then some .show
  else if word = "attempts" then some .attempts
  else if word = "prune" then some .prune
  else none

end Topic

def readNone (topic : Topic) (command : Command) :
    List String → Except Request Command
  | [] | ["--"] => .ok command
  | "-h" :: _ | "--help" :: _ => .error (.help topic)
  | _ => .error .refuse

/-- Whether an argument is an option. -/
def isOption (argument : String) : Bool :=
  argument.startsWith "-" && argument ≠ "-"

def readShow : Option String → List String → Except Request Command
  | some id, [] | some id, ["--"] | none, ["--", id] => .ok (.show ⟨id⟩)
  | _, "-h" :: _ | _, "--help" :: _ => .error (.help (some .show))
  | none, id :: rest =>
    if isOption id then .error .refuse else readShow (some id) rest
  | _, _ => .error .refuse

def readPrune : Bool → List String → Except Request Command
  | dryRun, [] | dryRun, ["--"] => .ok (.prune dryRun)
  | false, "--dry-run" :: rest => readPrune true rest
  | _, "-h" :: _ | _, "--help" :: _ => .error (.help (some .prune))
  | _, _ => .error .refuse

def readCommand (topic : Topic) (rest : List String) : Except Request Command :=
  match topic with
  | .pending => readNone .pending .pending rest
  | .show => readShow none rest
  | .attempts => readNone .attempts .attempts rest
  | .prune => readPrune false rest

inductive PathOption where
  | settings
  | ledger

/-- What an argument says as an option: the option, and its value if that
follows directly. -/
inductive OptionForm where
  | path (option : PathOption) (value : Option String)
  | help
  | version
  | unknown

/-- The value behind a letter; a sign of equality before it does not count. -/
def attachedValue : List Char → Option String
  | [] => none
  | '=' :: rest => some (String.ofList rest)
  | rest => some (String.ofList rest)

def OptionForm.of (argument : String) : OptionForm :=
  let long (name : List Char) (option : PathOption) : Option OptionForm :=
    if name.isPrefixOf argument.toList then
      match argument.toList.drop name.length with
      | [] => some (.path option none)
      | '=' :: rest => some (.path option (some (String.ofList rest)))
      | _ => none
    else none
  if argument = "--help" then .help
  else if argument = "--version" then .version
  else
    match argument.toList with
    | '-' :: '-' :: _ =>
      ((long "--config".toList .settings) <|>
        (long "--ledger".toList .ledger)).getD .unknown
    | '-' :: 'c' :: rest => .path .settings (attachedValue rest)
    | '-' :: 'l' :: rest => .path .ledger (attachedValue rest)
    | '-' :: 'h' :: _ => .help
    | '-' :: 'V' :: _ => .version
    | _ => .unknown

structure Options where
  settings : Option Path := none
  ledger : Option Path := none

/-- Takes the value of an option, which must not be empty; each option stands
once. -/
def Options.set? (o : Options) (option : PathOption) (value : String) :
    Option Options :=
  if value.isEmpty then none
  else
    match option, o.settings, o.ledger with
    | .settings, none, _ => some { o with settings := some ⟨value⟩ }
    | .ledger, _, none => some { o with ledger := some ⟨value⟩ }
    | _, _, _ => none

def readFrom (o : Options) : List String → Request
  | [] => .refuse
  | argument :: rest =>
    if isOption argument then
      match OptionForm.of argument with
      | .help => .help none
      | .version => .version
      | .unknown => .refuse
      | .path option (some value) =>
        match o.set? option value with
        | some o => readFrom o rest
        | none => .refuse
      | .path option none =>
        match rest with
        | [] => .refuse
        | value :: rest =>
          if isOption value then .refuse
          else
            match o.set? option value with
            | some o => readFrom o rest
            | none => .refuse
    else if argument = "help" then
      match rest with
      | [] => .help none
      | [word] =>
        (Topic.ofWord? word).elim .refuse fun topic => .help (some topic)
      | _ => .refuse
    else
      match Topic.ofWord? argument with
      | none => .refuse
      | some topic =>
        match readCommand topic rest with
        | .ok command => .run ⟨o.settings, o.ledger, command⟩
        | .error request => request

def Request.ofArguments (arguments : List String) : Request :=
  readFrom {} arguments

end Redelivery.Cli
