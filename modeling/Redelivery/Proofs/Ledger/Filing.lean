import Redelivery.Proofs.Ledger.File
import Redelivery.Proofs.Ledger.Lookup
import Redelivery.Proofs.Ledger.Pruning

/-!
# Records under other ids

A file names every record twice: by the id that it stands under and by the id
that it carries.  Loading goes by the first and does not look at the second.  So
a ledger is loaded with every record under its own id from just those files in
which no record that counts stands under another id; from the other files it is
loaded all the same.
-/

namespace Redelivery

namespace Binary.Codec

variable {α κ : Type} {key : Codec κ} {value : Codec α}

def readPairs (key : Codec κ) (value : Codec α) : Reader (List (κ × α)) := do
  let count ← Varint.read .size
  Reader.many (pair key value).read count

theorem readPairs_of_table [Ord κ] [Std.TransOrd κ] {t : Table κ α}
    {input rest : Bytes}
    (hread : (table key value).read input = .ok (t, rest)) :
    ∃ pairs, readPairs key value input = .ok (pairs, rest) ∧
      t = .ofList pairs := by
  obtain ⟨pairs, between, hcount, hpairs, ht⟩ := read_table hread
  exact ⟨pairs, Reader.bind_eq_ok_iff.2 ⟨_, between, hcount, hpairs⟩, ht⟩

end Binary.Codec

namespace Ledger

open Binary

/-! ## What stands in a file -/

/-- The records of a file with the ids that they stand under, in the order of
the file. -/
def filedPairs : Bytes → List (MessageId × Record)
  | [] => []
  | _ :: body =>
    match Codec.readPairs Codec.messageId Codec.record body with
    | .ok (pairs, _) => pairs
    | .error _ => []

/-- A record is the last one that stands under an id in a file. -/
def Counts (bytes : Bytes) (id : MessageId) (r : Record) : Prop :=
  ∃ before after, filedPairs bytes = before ++ (id, r) :: after ∧
    id ∉ after.map Prod.fst

variable {l : Ledger} {bytes : Bytes} {id : MessageId} {r : Record}
  {now : UInt64}

theorem records_of_decode (hdecode : decode bytes = .ok l) :
    l.records = .ofList (filedPairs bytes) := by
  obtain ⟨body, rfl, hread⟩ := read_of_decode hdecode
  obtain ⟨between, hrecords, -⟩ := Codec.read_ledger hread
  obtain ⟨pairs, hpairs, hrecords⟩ := Codec.readPairs_of_table hrecords
  simp only [filedPairs, hpairs]
  exact hrecords

theorem get?_of_decode (hdecode : decode bytes = .ok l) :
    l.get? id = some r ↔ Counts bytes id r := by
  rw [get?, records_of_decode hdecode]
  exact Table.get?_ofList_eq_some_iff

/-! ## Ledgers with every record under its own id -/

/-- There is one record for each message, and it is found by the id of the
message. -/
structure Filed (l : Ledger) : Prop where
  own : l.Keyed
  single : (l.listing.map Record.id).Nodup
  found : ∀ now id r, l.find? now id = some r → r.id = id
  listed : ∀ now, ∀ r ∈ l.listing,
    l.find? now r.id = if r.isExpired now then none else some r

theorem mem_listing_iff : r ∈ l.listing ↔ ∃ id, l.get? id = some r := by
  rw [listing, List.mem_mergeSort]
  exact Table.mem_values_iff l.records r

theorem Keyed.map_id_listing (hkeyed : l.Keyed) :
    l.listing.map Record.id = l.records.keys := by
  rw [hkeyed.listing_eq, Table.values, List.map_map]
  exact List.map_congr_left fun e he => hkeyed.id_of_mem he

theorem Keyed.filed (hkeyed : l.Keyed) : l.Filed where
  own := hkeyed
  single := by
    rw [hkeyed.map_id_listing]
    exact l.records.nodup_keys
  found := fun _ id r hfound => hkeyed id r (find?_eq_some_iff.1 hfound).1
  listed := by
    intro now r hlisted
    obtain ⟨id, hget⟩ := mem_listing_iff.1 hlisted
    rw [hkeyed id r hget, find?, hget]
    cases hexpired : r.isExpired now <;> simp [Option.filter, hexpired]

/-! ## What is loaded -/

/-- What a file and the time make of a ledger that is loaded. -/
structure Loads (bytes : Bytes) (now : UInt64) (loaded : Ledger) : Prop where
  /-- Under each id the last record that the file has there, if its life is not
  over. -/
  records : ∀ id r, loaded.get? id = some r ↔
    Counts bytes id r ∧ now ≤ r.expiresAt
  /-- Just where these records carry the ids that they stand under, all is
  well. -/
  filed : loaded.Filed ↔ ∀ id r,
    Counts bytes id r → now ≤ r.expiresAt → r.id = id

theorem loads_of_decode (hdecode : decode bytes = .ok l) (now : UInt64) :
    Loads bytes now (l.prune now) := by
  have hrecords : ∀ id r, (l.prune now).get? id = some r ↔
      Counts bytes id r ∧ now ≤ r.expiresAt := by
    intro id r
    rw [get?_prune_eq_some_iff, get?_of_decode hdecode]
  refine ⟨hrecords, ?_, ?_⟩
  · intro hfiled id r hcounts hlive
    exact hfiled.own id r ((hrecords id r).2 ⟨hcounts, hlive⟩)
  · intro hown
    refine Keyed.filed fun id r hget => ?_
    obtain ⟨hcounts, hlive⟩ := (hrecords id r).1 hget
    exact hown id r hcounts hlive

end Ledger

namespace LedgerFile

open Binary

variable {f : LedgerFile} {d : Disk} {bytes : Bytes} {now : UInt64}
  {loaded : Ledger}

/-- A file of a ledger with every record under its own id is loaded as such a
ledger. -/
theorem filed_of_holds {l : Ledger} (hkept : f.Holds d (some l))
    (hkeyed : l.Keyed) (now : UInt64) :
    ∃ loaded, ((f.loadLive now).run d).1 = .ok loaded ∧ loaded.Filed := by
  refine ⟨l.prune now, ?_, (hkeyed.prune now).filed⟩
  rw [run_loadLive, load_of_holds hkept]
  rfl

/-- Whatever bytes a ledger is loaded from, it has one record for each message
just where the records that count in the file stand under their own ids. -/
theorem loads_of_loadLive (hread : d.readFile f.path = .ok bytes)
    (hload : ((f.loadLive now).run d).1 = .ok loaded) :
    Ledger.Loads bytes now loaded := by
  obtain ⟨l, hdecode, rfl⟩ := decode_of_loadLive hread hload
  exact Ledger.loads_of_decode hdecode now

def standardOf (bytes : Bytes) : Disk :=
  (standardWith .empty).put ["var", "lib", "herald", "resend.ledger"]
    (.file bytes)

def mortal (id : MessageId) (expiresAt : UInt64) : Record :=
  { (default : Record) with id, expiresAt }

/-- A file in which records stand under another id than their own: one has a
later one under the same id, the other has expired at 50. -/
def refiled : Bytes :=
  formatVersion :: Codec.writePairs Codec.messageId Codec.record
    [(⟨"m1"⟩, mortal ⟨"m2"⟩ 100), (⟨"m3"⟩, mortal ⟨"m2"⟩ 10),
      (⟨"m1"⟩, mortal ⟨"m1"⟩ 100)] ++ [0]

theorem loads_of_loadLive_refiled :
    (standardOf refiled).readFile standard.path = .ok refiled ∧
      ((standard.loadLive 50).run (standardOf refiled)).1 =
        .ok (Ledger.empty.upsert (mortal ⟨"m1"⟩ 100)) ∧
      Ledger.Loads refiled 50 (Ledger.empty.upsert (mortal ⟨"m1"⟩ 100)) :=
  have hread : (standardOf refiled).readFile standard.path = .ok refiled := rfl
  have hload : ((standard.loadLive 50).run (standardOf refiled)).1 =
      .ok (Ledger.empty.upsert (mortal ⟨"m1"⟩ 100)) := rfl
  ⟨hread, hload, loads_of_loadLive hread hload⟩

def lasting : Record :=
  { mortal ⟨"b"⟩ 18446744073709551615 with status := .sent }

def astray : Ledger :=
  ⟨.ofList [(⟨"a"⟩, lasting)], .empty⟩

/-- It is loaded as it stands in its file: the record is listed and lives on, it
is found under the other message's id, and not under its own. -/
theorem loadLive_astray :
    ((standard.loadLive 0).run (standardWith astray)).1 = .ok astray ∧
      astray.listing = [lasting] ∧ lasting.isExpired 0 = false ∧
      astray.find? 0 ⟨"a"⟩ = some lasting ∧ astray.find? 0 ⟨"b"⟩ = none ∧
      ¬astray.Filed := by
  have hfound : astray.find? 0 ⟨"a"⟩ = some lasting := by decide
  have hunfiled : ¬astray.Filed := by
    intro hfiled
    have hsame : lasting.id = ⟨"a"⟩ := hfiled.found 0 ⟨"a"⟩ lasting hfound
    exact absurd hsame (by decide)
  exact ⟨rfl, List.mergeSort_singleton _,
    by decide, hfound, by decide, hunfiled⟩

end LedgerFile

end Redelivery
