import Redelivery.Delivery.Lifetime
import Redelivery.Delivery.Network

/-!
# Payloads

What travels over the network: sealed messages, notices, and either of them
wrapped with metadata for signed broadcast.  A payload's shape says how its
bytes are read; only its outermost wrapping carries metadata that others see,
and its innermost part decides whether it is valid.
-/

namespace Redelivery

structure SealedBody where
  senderPublicKey : Bytes
  hmac : Bytes
  iv : Bytes
  cipherText : Bytes
  signature : Bytes
deriving DecidableEq, Inhabited

structure ConfidentialMessage where
  sealed : SealedBody
  keyId : String
deriving DecidableEq, Inhabited

/-- How long data lives on the network, how much room it takes, and what it is
called. -/
structure MetaData where
  ttl : Lifetime
  sizeAllowance : UInt64
  className : String
deriving DecidableEq, Inhabited

namespace MetaData

def standardTtl : Lifetime :=
  .ofSeconds 864000

/-- Room for the keys and the signature that go along with broadcast data. -/
def standardAllowance : UInt64 :=
  251 + 463

def standard (className : String) : MetaData :=
  ⟨standardTtl, standardAllowance, className⟩

end MetaData

inductive PayloadShape where
  | confidential
  | notice
  | authenticated (data : PayloadShape)
deriving DecidableEq, Inhabited

inductive Payload where
  /-- A sealed message, whose validity only its receiver can judge. -/
  | confidential (message : ConfidentialMessage)
  /-- A notice, which is invalid once it has been withdrawn. -/
  | notice (withdrawn : Bool)
  | authenticated (data : Payload) (metaData : MetaData)
deriving DecidableEq, Inhabited

namespace Payload

def shape : Payload → PayloadShape
  | confidential _ => .confidential
  | notice _ => .notice
  | authenticated data _ => .authenticated data.shape

def className : Payload → String
  | confidential _ => "ConfidentialMessage"
  | notice _ => "ReleaseNotice"
  | authenticated _ _ => "AuthenticatedData"

def metaData? : Payload → Option MetaData
  | authenticated _ metaData => some metaData
  | _ => none

def isInvalid : Payload → Bool
  | confidential _ => false
  | notice withdrawn => withdrawn
  | authenticated data _ => data.isInvalid

def wrap (data : Payload) : Payload :=
  .authenticated data (.standard data.className)

end Payload

/-- Whether a key is one of those that may publish, letters of either case being
the same. -/
def isAuthorizedKey (keys : List String) (key : String) : Bool :=
  keys.any fun k => k.toList.map Char.toLower == key.toList.map Char.toLower

end Redelivery
