/-!
# Delivery statuses

The stages of one confidential send, as the transport reports them.  Every
status is of exactly one of three classes: received, pending, in the mailbox.
-/

namespace Redelivery

/-- How far one message has come. -/
inductive DeliveryStatus where
  | connecting
  | sent
  | ackReceived
  | tryAddToMailbox
  | addedToMailbox
  | mailboxMsgReceived
  | failed
deriving DecidableEq, Inhabited

namespace DeliveryStatus

def all : List DeliveryStatus :=
  [connecting, sent, ackReceived, tryAddToMailbox, addedToMailbox,
    mailboxMsgReceived, failed]

/-- The number that stands for a status in a ledger file. -/
def index : DeliveryStatus → Nat
  | connecting => 0
  | sent => 1
  | ackReceived => 2
  | tryAddToMailbox => 3
  | addedToMailbox => 4
  | mailboxMsgReceived => 5
  | failed => 6

def ofIndex? (n : Nat) : Option DeliveryStatus :=
  all[n]?

/-- The peer has the message, directly or from its mailbox. -/
def isReceived : DeliveryStatus → Bool
  | ackReceived | mailboxMsgReceived => true
  | _ => false

/-- The network still owes an answer, so the message may be sent again without
asking. -/
def isPending : DeliveryStatus → Bool
  | connecting | sent | tryAddToMailbox | failed => true
  | _ => false

/-- The message waits in the mailbox system; only the user may send it again. -/
def isInMailbox : DeliveryStatus → Bool
  | addedToMailbox => true
  | _ => false

def name : DeliveryStatus → String
  | connecting => "CONNECTING"
  | sent => "SENT"
  | ackReceived => "ACK_RECEIVED"
  | tryAddToMailbox => "TRY_ADD_TO_MAILBOX"
  | addedToMailbox => "ADDED_TO_MAILBOX"
  | mailboxMsgReceived => "MAILBOX_MSG_RECEIVED"
  | failed => "FAILED"

theorem ofIndex?_index (s : DeliveryStatus) : ofIndex? s.index = some s := by
  cases s <;> rfl

theorem index_of_ofIndex? {n : Nat} {s : DeliveryStatus}
    (h : ofIndex? n = some s) :
    s.index = n := by
  match n with
  | 0 | 1 | 2 | 3 | 4 | 5 | 6 => cases s <;> simp_all [ofIndex?, all, index]
  | n + 7 => simp [ofIndex?, all] at h

/-- The three classes exclude each other and leave nothing out. -/
theorem isPending_eq (s : DeliveryStatus) :
    s.isPending = !(s.isReceived || s.isInMailbox) := by
  cases s <;> rfl

end DeliveryStatus

end Redelivery
