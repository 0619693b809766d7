/-!
# Log levels

How much of what happens is worth a line in the log, and how a level is asked
for: by a number or by a name.
-/

namespace Redelivery

/-- How much is logged; every level logs what the ones before it do. -/
inductive LogLevel where
  | off
  | error
  | warn
  | info
  | debug
  | trace
deriving DecidableEq, Inhabited

namespace LogLevel

def all : List LogLevel := [off, error, warn, info, debug, trace]

def name : LogLevel → String
  | off => "off"
  | error => "error"
  | warn => "warn"
  | info => "info"
  | debug => "debug"
  | trace => "trace"

def number? (text : String) : Option Nat :=
  let digits := match text.toList with
    | '+' :: rest => rest
    | chars => chars
  if digits.isEmpty || !digits.all Char.isDigit then none
  else some (digits.foldl (fun n c => 10 * n + (c.toNat - '0'.toNat)) 0)

/-- The level with a name; letters of either case are the same, and no name at
all asks for errors only. -/
def ofName? (text : String) : Option LogLevel :=
  if text.isEmpty then some error
  else all.find? fun l => l.name.toList = text.toList.map Char.toLower

def ofText? (text : String) : Option LogLevel :=
  ((number? text).bind fun n => all[n]?) <|> ofName? text

def resolve (asked : Option String) (standard : LogLevel) : LogLevel :=
  (asked.bind ofText?).getD standard

end LogLevel

end Redelivery
