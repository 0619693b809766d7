import Redelivery.Ledger.Basic
import Redelivery.Ledger.Error
import Redelivery.Sleep

/-!
# Stores in memory

A store keeps the last ledger that was saved in it.  One that is told to refuse
gives a failure for every save and keeps what it has.
-/

namespace Redelivery

/-- A store that keeps one ledger and counts how often it was replaced. -/
structure MemoryStore where
  kept : Option Ledger
  saves : Nat
  refusing : Bool
deriving DecidableEq, Inhabited

namespace MemoryStore

/-- A store that holds what a run before has kept. -/
def holding (kept : Option Ledger) : MemoryStore := ⟨kept, 0, false⟩

def save (s : MemoryStore) (l : Ledger) :
    Except LedgerError Unit × MemoryStore :=
  if s.refusing then (.error .saveRefused, s)
  else (.ok (), { s with kept := some l, saves := s.saves + 1 })

/-- Waits until there have been some saves, for a limited time.  An empty ledger
may be saved after a sleep of `later`, if the wait is not over by then. -/
def waitForSaves (s : MemoryStore) (count limit : Nat) (later : Option Nat) :
    Except LedgerError Unit × MemoryStore :=
  let reached (s : MemoryStore) : Except LedgerError Unit :=
    if count ≤ s.saves then .ok () else .error .waitElapsed
  if count ≤ s.saves then (.ok (), s)
  else
    match later with
    | none => (.error .waitElapsed, s)
    | some delay =>
      if sleepTime delay < limit then
        let changed := (s.save .empty).2
        (reached changed, changed)
      else (.error .waitElapsed, s)

end MemoryStore

end Redelivery
