import Redelivery.Ledger.Basic
import Redelivery.Resend.NodeStates
import Redelivery.Resend.StatusSource

/-!
# Routines

What a task of the service still has to do.  A routine is cut into pieces where
other tasks may run in between; each constructor stands for one such piece and
names what follows it.
-/

namespace Redelivery

/-- What a task still has to do. -/
inductive Routine where
  /-- Nothing; the operation that the task was started for sent so many messages
  again. -/
  | answer (resent : Nat)
  | stop
  | save (next : Routine)
  /-- Is saving a copy of the ledger, taken when the writing began. -/
  | write (copy : Ledger) (next : Routine)
  | send (record : Record) (next : Routine)
  /-- Tries one candidate after the other.  A sweep that follows a reconnection
  goes on to watch the node. -/
  | sweep (candidates : List MessageId) (resent : Nat)
      (watching : Option NodeCursor)
  /-- Waits for a status. -/
  | follow (cursor : StatusCursor)
  | listen (position : Nat)
  | observe (cursor : NodeCursor)
  /-- Waits some time after a node came up. -/
  | debounce (cursor : NodeCursor) (due : Nat)
deriving DecidableEq, Inhabited

namespace Routine

/-- Whether the task holds the right to write. -/
def isWriting : Routine → Bool
  | write .. => true
  | _ => false

def afterSweep (resent : Nat) : Option NodeCursor → Routine
  | none => .answer resent
  | some cursor => .observe cursor

/-- The answer of an operation that is over. -/
def answer? : Routine → Option Nat
  | answer resent => some resent
  | _ => none

end Routine

end Redelivery
