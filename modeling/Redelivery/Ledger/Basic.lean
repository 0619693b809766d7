import Redelivery.Ledger.Record
import Redelivery.Table

/-!
# The retry ledger

The ledger holds the record of every message that is not yet known to be
delivered, and how often each was attempted.  An absent counter means that the
message was only sent once.  What is kept on disk between two runs is the whole
ledger.
-/

namespace Redelivery

/-- The records by message id, and the attempts counted for them. -/
structure Ledger where
  records : Table MessageId Record
  attempts : Table MessageId UInt32
deriving DecidableEq, Inhabited

namespace Ledger

def empty : Ledger := ⟨.empty, .empty⟩

/-- The record under an id, expired or not. -/
def get? (l : Ledger) (id : MessageId) : Option Record :=
  l.records.get? id

/-- The record under an id, if its life is not over. -/
def find? (l : Ledger) (now : UInt64) (id : MessageId) : Option Record :=
  (l.get? id).filter fun r => !r.isExpired now

/-- Whether there is a record under an id, expired or not. -/
def contains (l : Ledger) (id : MessageId) : Bool :=
  l.records.contains id

def attempts? (l : Ledger) (id : MessageId) : Option UInt32 :=
  l.attempts.get? id

def upsert (l : Ledger) (r : Record) : Ledger :=
  { l with records := l.records.insert r.id r }

/-- Drops the record of an id together with its counter. -/
def remove (l : Ledger) (id : MessageId) : Ledger :=
  ⟨l.records.erase id, l.attempts.erase id⟩

def setAttempts (l : Ledger) (id : MessageId) (n : UInt32) : Ledger :=
  { l with attempts := l.attempts.insert id n }

/-- Every record, ordered by the id that it carries. -/
def listing (l : Ledger) : List Record :=
  l.records.values.mergeSort fun a b => (compare a.id b.id).isLE

def size (l : Ledger) : Nat :=
  l.records.size

/-- Drops every record whose life is over, and every counter without a
record. -/
def prune (l : Ledger) (now : UInt64) : Ledger :=
  let live := l.records.filter fun _ r => !r.isExpired now
  ⟨live, l.attempts.filter fun id _ => live.contains id⟩

/-- The number of records that pruning drops. -/
def expiredCount (l : Ledger) (now : UInt64) : Nat :=
  l.size - (l.prune now).size

/-- The ledger that a run starts with, by what was kept from the run before. -/
def restored (kept : Option Ledger) (now : UInt64) : Ledger :=
  match kept with
  | some l => l.prune now
  | none => empty

/-- Every record stands under the id that it carries. -/
def Keyed (l : Ledger) : Prop :=
  ∀ id r, l.get? id = some r → r.id = id

end Ledger

end Redelivery
