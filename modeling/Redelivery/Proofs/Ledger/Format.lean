import Redelivery.Ledger.Format
import Redelivery.Proofs.Binary.Forms

/-!
# The ledger file is read back exactly

A file holds one ledger.  Whatever order its tables were written in, the file is
read back as that ledger; with more bytes behind, it is refused for these; cut
short anywhere, it is refused as well.
-/

namespace Redelivery

open Binary

namespace Binary.Form

/-- A network identity: its addresses in any order, then its key. -/
def networkId : Form NetworkId :=
  (pair (table (pair Codec.transport.form Codec.address.form))
    Codec.bytes.form).via
    fun n => (n.addresses, n.publicKey)

def record : Form Record :=
  (pair Codec.messageId.form <| pair Codec.message.form <| pair networkId <|
    pair Codec.keyPair.form <| pair networkId <| pair Codec.status.form <|
    pair Codec.uint64.form Codec.uint64.form).via
    fun r => (r.id, r.payload, r.sender.networkId, r.sender.keyPair,
      r.receiver, r.status, r.createdAt, r.expiresAt)

/-- A ledger: its records, then its attempts, both in any order. -/
def ledger : Form Ledger :=
  (pair (table (pair Codec.messageId.form record))
    (table (pair Codec.messageId.form Codec.uint32.form))).via
    fun l => (l.records, l.attempts)

end Binary.Form

/-- The bytes of a file that holds a ledger, where tables may be written in any
order. -/
def Ledger.WrittenAs (l : Ledger) (bytes : Bytes) : Prop :=
  ∃ body, Form.ledger l body ∧ bytes = formatVersion :: body

namespace Binary.Codec

/-! ## What the codecs write has the form -/

variable {α β κ : Type}

theorem form_write (c : Codec α) (a : α) : c.form a (c.write a) := rfl

theorem form_pair {first : Codec α} {second : Codec β} {F : Form α} {G : Form β}
    (hfirst : ∀ a, F a (first.write a)) (hsecond : ∀ b, G b (second.write b))
    (ab : α × β) :
    F.pair G ab ((first.pair second).write ab) :=
  Form.pair_append (hfirst ab.1) (hsecond ab.2)

theorem form_table [Ord κ] [Std.TransOrd κ] {key : Codec κ} {value : Codec α}
    {F : Form (κ × α)} (hform : ∀ e, F e ((key.pair value).write e))
    (t : Table κ α) :
    F.table t ((table key value).write t) :=
  form_writePairs .rfl fun e _ => hform e

theorem networkId_written (n : NetworkId) :
    Form.networkId n (networkId.write n) :=
  have haddresses :=
    form_table (form_pair transport.form_write address.form_write)
  form_pair haddresses bytes.form_write _

theorem record_written (r : Record) : Form.record r (record.write r) :=
  form_pair messageId.form_write
    (form_pair message.form_write <| form_pair networkId_written <|
    form_pair keyPair.form_write <| form_pair networkId_written <|
      form_pair status.form_write <|
    form_pair uint64.form_write uint64.form_write) _

theorem ledger_written (l : Ledger) : Form.ledger l (ledger.write l) :=
  have hrecords := form_table (form_pair messageId.form_write record_written)
  have hattempts :=
    form_table (form_pair messageId.form_write uint32.form_write)
  form_pair hrecords hattempts _

/-! ## What has the form is read back -/

theorem exact_transport : transport.Exact :=
  exact_choice Transport.ofIndex?_index fun t => by cases t <;> decide

theorem exact_status : status.Exact :=
  exact_choice DeliveryStatus.ofIndex?_index fun s => by cases s <;> decide

theorem exact_address : address.Exact :=
  (exact_text.pair exact_uint16).via fun _ => rfl

theorem exact_messageId : messageId.Exact :=
  exact_text.via fun _ => rfl

theorem exact_keyPair : keyPair.Exact :=
  (exact_bytes.pair exact_bytes).via fun _ => rfl

theorem exact_sealedBody : sealedBody.Exact :=
  (exact_bytes.pair <| exact_bytes.pair <| exact_bytes.pair <|
    exact_bytes.pair exact_bytes).via
    fun _ => rfl

theorem exact_message : message.Exact :=
  (exact_sealedBody.pair exact_text).via fun _ => rfl

theorem length_transport_pos (t : Transport) : 0 < (transport.write t).length :=
  Varint.length_write_pos _

theorem length_messageId_pos (id : MessageId) :
    0 < (messageId.write id).length := by
  have hcount := Varint.length_write_pos (Text.Utf8.encode id.text).length
  simp only [messageId, Codec.via, text, List.length_append]
  omega

theorem length_pair_pos {first : Codec α} {G : Form β}
    (hfirst : ∀ a, 0 < (first.write a).length) (ab : α × β) (written : Bytes)
    (hform : first.form.pair G ab written) : 0 < written.length := by
  obtain ⟨one, other, rfl, _, rfl⟩ := hform
  have hone := hfirst ab.1
  rw [List.length_append]
  omega

theorem exact_networkId : networkId.read.Exact Form.networkId :=
  have haddresses := exact_table (exact_pair exact_transport exact_address)
    (length_pair_pos length_transport_pos)
  exact_via (exact_pair haddresses exact_bytes) fun _ => rfl

theorem exact_record : record.read.Exact Form.record :=
  have hparts := exact_pair exact_messageId <| exact_pair exact_message <|
    exact_pair exact_networkId <| exact_pair exact_keyPair <|
      exact_pair exact_networkId <|
    exact_pair exact_status <| exact_pair exact_uint64 exact_uint64
  exact_via hparts fun _ => rfl

theorem exact_ledger : ledger.read.Exact Form.ledger :=
  have hrecords := exact_table (exact_pair exact_messageId exact_record)
    (length_pair_pos length_messageId_pos)
  have hattempts := exact_table (exact_pair exact_messageId exact_uint32)
    (length_pair_pos length_messageId_pos)
  exact_via (exact_pair hrecords hattempts) fun _ => rfl

/-! ## How long the form is -/

theorem even_networkId : Form.networkId.Even :=
  have haddresses := (transport.even_form.pair address.even_form).table
  (haddresses.pair bytes.even_form).via _

theorem even_record : Form.record.Even :=
  (messageId.even_form.pair <| message.even_form.pair <| even_networkId.pair <|
    keyPair.even_form.pair <| even_networkId.pair <| status.even_form.pair <|
    uint64.even_form.pair uint64.even_form).via _

theorem even_ledger : Form.ledger.Even :=
  have hrecords := (messageId.even_form.pair even_record).table
  have hattempts := (messageId.even_form.pair uint32.even_form).table
  (hrecords.pair hattempts).via _

end Binary.Codec

namespace Ledger

/-! ## Files -/

theorem writtenAs_encode (l : Ledger) : l.WrittenAs l.encode :=
  ⟨_, Codec.ledger_written l, rfl⟩

variable {l : Ledger} {bytes : Bytes}

/-- In whatever order its tables are written, a ledger takes as many bytes. -/
theorem WrittenAs.length_eq (hform : l.WrittenAs bytes) :
    bytes.length = l.encode.length := by
  obtain ⟨body, hbody, rfl⟩ := hform
  have hlength := Codec.even_ledger hbody (Codec.ledger_written l)
  simp only [encode, List.length_cons, hlength]

theorem decode_version (body : Bytes) :
    decode (formatVersion :: body) =
      match Codec.ledger.read body with
      | .error cause => .error (.malformed cause)
      | .ok (l, []) => .ok l
      | .ok (_, rest) => .error (.trailingBytes rest.length) := by
  have hversion : ¬formatVersion ≠ formatVersion := fun hother => hother rfl
  unfold decode
  exact if_neg hversion

theorem decode_append (hform : l.WrittenAs bytes)
    (hshort : bytes.length < UInt64.size) (more : Bytes) :
    decode (bytes ++ more) = if more = [] then .ok l
      else .error (.trailingBytes more.length) := by
  obtain ⟨body, hbody, rfl⟩ := hform
  have hlength : body.length < UInt64.size := Nat.lt_of_succ_lt hshort
  rw [List.cons_append, decode_version,
    Codec.exact_ledger.reads hbody hlength more]
  cases more <;> rfl

theorem decode_cut (hform : l.WrittenAs bytes)
    (hshort : bytes.length < UInt64.size) {cut : Bytes} (hcut : cut <+: bytes)
    (hproper : cut ≠ bytes) :
    ∃ cause, decode cut = .error cause := by
  obtain ⟨body, hbody, rfl⟩ := hform
  have hlength : body.length < UInt64.size := Nat.lt_of_succ_lt hshort
  cases cut with
  | nil => exact ⟨.emptyFile, rfl⟩
  | cons version start =>
    obtain ⟨rfl, hstart⟩ := List.cons_prefix_cons.1 hcut
    have hshorter : start ≠ body := fun same => hproper (by rw [same])
    obtain ⟨cause, hrefused⟩ :=
      Codec.exact_ledger.refuses hbody hlength hstart hshorter
    rw [decode_version, hrefused]
    exact ⟨.malformed cause, rfl⟩

/-- A ledger file is read back as the ledger that was written, in whatever order
its tables were written; with more bytes behind it is refused for exactly these,
and every start of it that lacks something is refused. -/
theorem decode_exact (l : Ledger) :
    l.WrittenAs l.encode ∧
      ∀ bytes, l.WrittenAs bytes → bytes.length < UInt64.size →
        (∀ more, decode (bytes ++ more) =
          if more = [] then .ok l else .error (.trailingBytes more.length)) ∧
        ∀ cut, cut <+: bytes → cut ≠ bytes →
          ∃ cause, decode cut = .error cause :=
  ⟨writtenAs_encode l, fun _ hform hshort =>
    ⟨decode_append hform hshort, fun _ => decode_cut hform hshort⟩⟩

def twoAddresses : NetworkId :=
  ⟨.ofList [(.clear, ⟨"a", 1⟩), (.tor, ⟨"b", 2⟩)], [7]⟩

/-- A record under the id of another message, with a counter that takes three
bytes. -/
def misfiled : Ledger :=
  ⟨.ofList [(⟨"m1"⟩,
    { (default : Record) with id := ⟨"m2"⟩, receiver := twoAddresses })],
    .ofList [(⟨"m1"⟩, 300)]⟩

/-- A file of that ledger which has the receiver's second address before the
first. -/
def misfiledFile : Bytes :=
  [1, 1, 2, 109, 49, 2, 109, 50, 0, 0, 0, 0, 0, 0, 0, 0, 0, 0,
    2, 1, 1, 98, 2, 0, 1, 97, 1, 1, 7, 0, 0, 0, 1, 2, 109, 49, 251, 44, 1]

theorem writtenAs_misfiledFile : misfiled.WrittenAs misfiledFile := by
  have hswapped : [(Transport.tor, Address.mk "b" 2), (.clear, .mk "a" 1)].Perm
      twoAddresses.addresses.toList := .swap _ _ []
  have haddresses := Codec.form_writePairs hswapped fun e _ =>
    Codec.form_pair Codec.transport.form_write Codec.address.form_write e
  have hreceiver : Form.networkId twoAddresses _ :=
    Form.pair_append haddresses rfl
  have hrecord : Form.record
      { (default : Record) with id := ⟨"m2"⟩, receiver := twoAddresses } _ :=
    Form.pair_append rfl <| Form.pair_append rfl <|
      Form.pair_append (Codec.networkId_written default) <|
      Form.pair_append rfl <| Form.pair_append hreceiver <|
      Form.pair_append rfl <| Form.pair_append rfl rfl
  have hrecords := Form.pair_append (Codec.messageId.form_write ⟨"m1"⟩) hrecord
  refine ⟨_, ⟨_, _, ⟨_, _, .rfl, ⟨_, [], hrecords, rfl, rfl⟩, rfl⟩,
    Codec.form_table
      (Codec.form_pair Codec.messageId.form_write Codec.uint32.form_write)
      _, rfl⟩, ?_⟩
  decide

theorem decode_exact_misfiled :
    misfiledFile ≠ misfiled.encode ∧ decode misfiledFile = .ok misfiled ∧
      decode (misfiledFile ++ [0, 0]) = .error (.trailingBytes 2) ∧
      ∃ cause, decode (misfiledFile.take 20) = .error cause :=
  have hfile :=
    (decode_exact misfiled).2 misfiledFile writtenAs_misfiledFile (by decide)
  ⟨by decide, hfile.1 [], hfile.1 [0,
    0], hfile.2 _ (List.take_prefix 20 _) (by decide)⟩

end Ledger

end Redelivery
