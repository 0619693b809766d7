import Redelivery.Binary.Envelope
import Redelivery.Ledger.Basic
import Redelivery.Ledger.Error

/-!
# The ledger file

The bytes of a ledger file: one byte for the version of the format, then the
records by message id, then the attempts by message id.  Reading accepts nothing
before, between or after these parts.
-/

namespace Redelivery

namespace Binary.Codec

def messageId : Codec MessageId :=
  text.via MessageId.text MessageId.mk

def record : Codec Record :=
  (pair messageId <| pair message <| pair networkId <| pair keyPair <|
    pair networkId <| pair status <| pair uint64 uint64).via
    (fun r => (r.id, r.payload, r.sender.networkId, r.sender.keyPair,
      r.receiver, r.status, r.createdAt, r.expiresAt))
    fun (id, payload, networkId, keyPair, receiver, status, createdAt,
        expiresAt) =>
      ⟨id, payload, ⟨networkId, keyPair⟩, receiver, status, createdAt,
        expiresAt⟩

/-- A ledger: records, then attempts. -/
def ledger : Codec Ledger :=
  (pair (table messageId record) (table messageId uint32)).via
    (fun l => (l.records, l.attempts)) fun (records, attempts) =>
      ⟨records, attempts⟩

end Binary.Codec

namespace Ledger

open Binary

def encode (l : Ledger) : Bytes :=
  formatVersion :: Codec.ledger.write l

def decode : Bytes → Except FormatError Ledger
  | [] => .error .emptyFile
  | version :: body =>
    if version ≠ formatVersion then .error (.unsupportedVersion version)
    else
      match Codec.ledger.read body with
      | .error cause => .error (.malformed cause)
      | .ok (l, []) => .ok l
      | .ok (_, rest) => .error (.trailingBytes rest.length)

/-- Whether the format leaves no choice in how a ledger is written: the
addresses of an identity may stand in any order, so none may have several. -/
def hasOneForm (l : Ledger) : Bool :=
  l.records.values.all fun r =>
    r.sender.networkId.addresses.size ≤ 1 && r.receiver.addresses.size ≤ 1

end Ledger

end Redelivery
