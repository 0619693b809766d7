import Redelivery.Bytes
import Redelivery.Table

/-!
# Network identities

Transports and the life of their nodes, addresses, and the identities that
messages are sent from and to.
-/

namespace Redelivery

inductive Transport where
  | clear
  | tor
  | i2p
deriving DecidableEq, Inhabited

namespace Transport

def all : List Transport := [clear, tor, i2p]

/-- The number that stands for a transport in a ledger file, and its place in
the order. -/
def index : Transport → Nat
  | clear => 0
  | tor => 1
  | i2p => 2

def ofIndex? (n : Nat) : Option Transport :=
  all[n]?

def name : Transport → String
  | clear => "CLEAR"
  | tor => "TOR"
  | i2p => "I2P"

theorem ofIndex?_index (t : Transport) : ofIndex? t.index = some t := by
  cases t <;> rfl

theorem index_of_ofIndex? {n : Nat} {t : Transport} (h : ofIndex? n = some t) :
    t.index = n := by
  match n with
  | 0 | 1 | 2 => cases t <;> simp_all [ofIndex?, all, index]
  | n + 3 => simp [ofIndex?, all] at h

instance : Ord Transport := ⟨fun a b => compare a.index b.index⟩

instance : Std.TransOrd Transport where
  eq_swap {a b} :=
    Std.OrientedOrd.eq_swap (α := Nat) (a := a.index) (b := b.index)
  isLE_trans {a b c} :=
    Std.TransOrd.isLE_trans (α := Nat) (a := a.index) (b := b.index)
      (c := c.index)

instance : Std.LawfulEqOrd Transport where
  compare_self {a} := Std.ReflOrd.compare_self (α := Nat) (a := a.index)
  eq_of_compare {a b} h := by
    have same : a.index = b.index := Std.LawfulEqOrd.eq_of_compare h
    have := congrArg ofIndex? same
    simpa [ofIndex?_index] using this

end Transport

/-- The life of the default node of one transport. -/
inductive NodeState where
  | new
  | starting
  | running
  | stopping
  | terminated
  | failed
deriving DecidableEq, Inhabited

structure Address where
  host : String
  port : UInt16
deriving DecidableEq, Inhabited

def Address.text (a : Address) : String :=
  a.host ++ ":" ++ toString a.port.toNat

/-- A peer's addresses, one for each transport at most, and the key it is known
by. -/
structure NetworkId where
  addresses : Table Transport Address
  publicKey : Bytes
deriving DecidableEq, Inhabited

namespace NetworkId

def address? (n : NetworkId) (t : Transport) : Option Address :=
  n.addresses.get? t

/-- The printed form of an identity: its addresses in the order of their
transports. -/
def text (n : NetworkId) : String :=
  ", ".intercalate <| n.addresses.toList.map fun (t, a) =>
    t.name ++ "=" ++ a.text

end NetworkId

structure KeyPair where
  publicKey : Bytes
  privateKey : Bytes
deriving DecidableEq, Inhabited

namespace KeyPair

def text (k : KeyPair) : String :=
  let key := ", ".intercalate (k.publicKey.map fun b => toString b.toNat)
  "KeyPair \x7b public: [" ++ key ++ "], private: \"<redacted>\" \x7d"

def prettyText (k : KeyPair) : String :=
  let line b := "        " ++ toString (UInt8.toNat b) ++ ",\n"
  let key :=
    if k.publicKey.isEmpty then "[]"
    else "[\n" ++ String.join (k.publicKey.map line) ++ "    ]"
  "KeyPair \x7b\n    public: " ++ key ++ ",\n    private: \"<redacted>\",\n\x7d"

end KeyPair

/-- The identity a send is issued from. -/
structure Sender where
  networkId : NetworkId
  keyPair : KeyPair
deriving DecidableEq, Inhabited

end Redelivery
