import Redelivery.Calendar
import Redelivery.Ledger.Basic
import Redelivery.Resend.Attempts
import Redelivery.Text.Padding

/-!
# Reports on a ledger

What is printed about a ledger: the messages that are pending, everything about
one message, the counters.
-/

namespace Redelivery.Cli

open Text

/-- Lines, each with an end of its own. -/
def lines (parts : List String) : String :=
  String.join (parts.map (· ++ "\n"))

def columns (parts : List String) : String :=
  " ".intercalate parts

def attemptsText (l : Ledger) (id : MessageId) : String :=
  toString ((l.attempts? id).getD 0).toNat

/-- Whether a record is listed as pending. -/
def isListed (now : UInt64) (r : Record) : Bool :=
  r.status.isPending && !r.isExpired now

def pendingLine (l : Ledger) (now : UInt64) (r : Record) : String :=
  columns [padRight 28 r.id.text, padRight 20 r.status.name,
    padLeft 8 (attemptsText l r.id), padLeft 6 (ageText now r.createdAt),
    padLeft 8 (remainingText now r.expiresAt)]

def pendingReport (l : Ledger) (now : UInt64) : String :=
  match l.listing.filter (isListed now) with
  | [] => lines ["No pending messages"]
  | listed =>
    let heading :=
      columns [padRight 28 "MESSAGE ID", padRight 20 "STATUS",
        padLeft 8 "ATTEMPTS", padLeft 6 "AGE", padLeft 8 "EXPIRES"]
    lines (heading :: listed.map (pendingLine l now)) ++
      lines ["", "Total: " ++ toString listed.length ++ " message(s)"]

def peerText (n : NetworkId) : String :=
  if n.addresses.isEmpty then
    "<no addresses> (" ++ toString n.publicKey.length ++ " byte key)"
  else n.text

/-- Whether the user may send a message again, as far as the ledger tells. -/
def manualResendShown (config : ResendConfig) (l : Ledger) (now : UInt64)
    (id : MessageId) (r : Record) : Bool :=
  !r.isExpired now &&
    manualResendAvailable (l.attempts? id) config.maxManualResends

def showReport (config : ResendConfig) (l : Ledger) (now : UInt64)
    (id : MessageId) (r : Record) :
    String :=
  lines ["Message ID: " ++ r.id.text, "Status: " ++ r.status.name,
    "Created: " ++ timestampText r.createdAt ++ " (" ++
      ageText now r.createdAt ++ " ago)",
    "Expires: " ++ timestampText r.expiresAt, "",
    "Routing:", "  Sender: " ++ peerText r.sender.networkId,
    "  Receiver: " ++ peerText r.receiver, "",
    "Payload:", "  Key ID: " ++ r.payload.keyId,
    "  Cipher text: " ++ toString r.payload.sealed.cipherText.length ++
      " bytes", "",
    "Resends:", "  Attempts: " ++ attemptsText l id,
    "  Manual resend available: " ++ if manualResendShown config l now id r then
      "yes" else "no"]

def attemptsReport (l : Ledger) : String :=
  if l.attempts.isEmpty then lines ["No resend attempts recorded"]
  else
    lines (columns [padRight 28 "MESSAGE ID", padLeft 8 "ATTEMPTS"] ::
      l.attempts.toList.map fun (id, n) =>
        columns [padRight 28 id.text, padLeft 8 (toString n.toNat)])

end Redelivery.Cli
