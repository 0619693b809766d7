import Redelivery.Binary.Codec
import Redelivery.Delivery.Envelope
import Redelivery.Delivery.Status

/-!
# The binary form of network data

Codecs of identities, statuses, messages and metadata, and the reader of a
payload whose shape is known.
-/

namespace Redelivery.Binary.Codec

def transport : Codec Transport :=
  choice Transport.index Transport.ofIndex? Transport.all.length

def status : Codec DeliveryStatus :=
  choice DeliveryStatus.index DeliveryStatus.ofIndex? DeliveryStatus.all.length

def address : Codec Address :=
  (pair text uint16).via (fun a => (a.host, a.port)) fun (host, port) =>
    ⟨host, port⟩

def networkId : Codec NetworkId :=
  (pair (table transport address) bytes).via
    (fun n => (n.addresses, n.publicKey))
    fun (addresses, publicKey) => ⟨addresses, publicKey⟩

def keyPair : Codec KeyPair :=
  (pair bytes bytes).via (fun k => (k.publicKey, k.privateKey))
    fun (publicKey, privateKey) => ⟨publicKey, privateKey⟩

def sealedBody : Codec SealedBody :=
  (pair bytes <| pair bytes <| pair bytes <| pair bytes bytes).via
    (fun s => (s.senderPublicKey, s.hmac, s.iv, s.cipherText, s.signature))
    fun (senderPublicKey, hmac, iv, cipherText, signature) =>
      ⟨senderPublicKey, hmac, iv, cipherText, signature⟩

def message : Codec ConfidentialMessage :=
  (pair sealedBody text).via (fun m => (m.sealed, m.keyId))
    fun (sealed, keyId) => ⟨sealed, keyId⟩

/-- A lifetime: seconds, then nanoseconds, whole seconds of which are carried
when read. -/
def lifetime : Codec Lifetime where
  write l := uint64.write l.seconds ++ uint32.write l.nanos
  read := do
    let seconds ← uint64.read
    let nanos ← uint32.read
    match Lifetime.ofParts? seconds nanos with
    | some l => return l
    | none => Reader.fail .lifetimeTooLong

def metaData : Codec MetaData :=
  (pair lifetime <| pair uint64 text).via
    (fun m => (m.ttl, m.sizeAllowance, m.className))
    fun (ttl, sizeAllowance, className) => ⟨ttl, sizeAllowance, className⟩

end Redelivery.Binary.Codec

namespace Redelivery

open Binary

def Payload.write : Payload → Bytes
  | .confidential m => Codec.message.write m
  | .notice withdrawn => Codec.boolean.write withdrawn
  | .authenticated data metaData => data.write ++ Codec.metaData.write metaData

def PayloadShape.read : PayloadShape → Reader Payload
  | .confidential => Payload.confidential <$> Codec.message.read
  | .notice => Payload.notice <$> Codec.boolean.read
  | .authenticated shape => do
    let data ← shape.read
    let metaData ← Codec.metaData.read
    return .authenticated data metaData

end Redelivery
