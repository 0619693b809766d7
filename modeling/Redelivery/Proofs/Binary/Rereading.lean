import Redelivery.Proofs.Binary.Forms

/-!
# What was read is read again

Lengths and counts are read as numbers of 64 bits.  So nothing that was read is
too long to be written, whatever bytes it was read from: written in its own form
it is read back, and so is a table that has lost some of its pairs.
-/

namespace Redelivery

theorem Bytes.ofLittleEndian_lt (bytes : Bytes) :
    ofLittleEndian bytes < capacity bytes.length := by
  induction bytes with
  | nil => decide
  | cons b rest ih =>
    have hb : b.toNat < 256 := b.toNat_lt
    simp only [ofLittleEndian, List.length_cons, capacity]
    omega

theorem Bytes.capacity_le_of_le {count room : Nat} (hle : count ≤ room) :
    capacity count ≤ capacity room := by
  induction hle with
  | refl => exact Nat.le_refl _
  | step _ ih =>
    simp only [capacity]
    omega

namespace Binary

variable {α β κ : Type}

namespace Reader

variable {count : Nat} {input taken rest : Bytes}

theorem length_of_take (htake : take count input = .ok (taken, rest)) :
    taken.length = count := by
  unfold take at htake
  split at htake
  next hlong =>
    cases htake
    exact List.length_take_of_le hlong
  next => cases htake

theorem length_of_takeEach (htake : takeEach count input = .ok (taken, rest)) :
    taken.length = count := by
  unfold takeEach at htake
  split at htake
  next hlong =>
    cases htake
    exact List.length_take_of_le hlong
  next => cases htake

theorem many_succ {item : Reader α} {values : List α}
    (hread : many item (count + 1) input = .ok (values, rest)) :
    ∃ first between others, item input = .ok (first, between) ∧
      many item count between = .ok (others, rest) ∧
      values = first :: others := by
  obtain ⟨first, between, hfirst, hmore⟩ := bind_eq_ok_iff.1 hread
  obtain ⟨others, left, hothers, hdone⟩ := bind_eq_ok_iff.1 hmore
  cases hdone
  exact ⟨first, between, others, hfirst, hothers, rfl⟩

theorem length_of_many {item : Reader α} {values : List α}
    (hread : many item count input = .ok (values, rest)) :
    values.length = count := by
  induction count generalizing input values with
  | zero =>
    cases hread
    rfl
  | succ count ih =>
    obtain ⟨first, between, others, -, hothers, rfl⟩ := many_succ hread
    rw [List.length_cons, ih hothers]

end Reader

namespace Varint

/-- A number that was read has room in its place. -/
theorem read_lt {place : IntegerType} {input rest : Bytes} {n : Nat}
    (hread : read place input = .ok (n, rest)) :
    n < Bytes.capacity (room place) := by
  have hroom : 2 ≤ room place := by cases place <;> decide
  cases input with
  | nil => cases hread
  | cons mark body =>
    simp only [read] at hread
    split at hread
    next =>
      cases hread
      exact Nat.lt_of_lt_of_le mark.toNat_lt
        (Nat.le_trans (by decide) (Bytes.capacity_le_of_le hroom))
    next count width _ =>
      split at hread
      next hle =>
        split at hread
        next taken left htake =>
          cases hread
          have hcapacity := Bytes.capacity_le_of_le hle
          rw [← Reader.length_of_take htake] at hcapacity
          exact Nat.lt_of_lt_of_le (Bytes.ofLittleEndian_lt taken) hcapacity
        next => cases hread
      next => cases hread

theorem length_write_le (n : Nat) : (write n).length ≤ 9 := by
  unfold write
  split
  · simp
  · split
    · simp
    · split <;> simp

end Varint

namespace Codec

/-- A value is read back from what is written for it, whatever follows. -/
def Keeps (c : Codec α) (a : α) : Prop :=
  ∀ rest, c.read (c.write a ++ rest) = .ok (a, rest)

/-- All that is read is read back once it is written. -/
structure Steady (c : Codec α) : Prop where
  keeps : ∀ {input a rest}, c.read input = .ok (a, rest) → c.Keeps a

variable {c : Codec α} {d : Codec β} {a : α} {b : β}

theorem Exact.keeps (hexact : c.Exact)
    (hshort : (c.write a).length < UInt64.size) : c.Keeps a :=
  fun rest => hexact.reads rfl hshort rest

/-- A codec that writes a number and nothing else. -/
theorem Exact.steady (hexact : c.Exact)
    (hwrite : ∀ a, ∃ n, c.write a = Varint.write n) :
    c.Steady where
  keeps := by
    intro input a rest _
    obtain ⟨n, hn⟩ := hwrite a
    have hshort := Varint.length_write_le n
    exact hexact.keeps (by rw [hn]; exact Nat.lt_of_le_of_lt hshort (by decide))

theorem steady_uint16 : uint16.Steady :=
  exact_uint16.steady fun n => ⟨n.toNat, rfl⟩

theorem steady_uint32 : uint32.Steady :=
  exact_uint32.steady fun n => ⟨n.toNat, rfl⟩

theorem steady_uint64 : uint64.Steady :=
  exact_uint64.steady fun n => ⟨n.toNat, rfl⟩

theorem steady_bytes : bytes.Steady where
  keeps := by
    intro input value rest hread more
    obtain ⟨count, between, hcount, htake⟩ := Reader.bind_eq_ok_iff.1 hread
    have hlt := Varint.read_lt hcount
    obtain rfl := Reader.length_of_takeEach htake
    have hnumber := Varint.read_write hlt (value ++ more)
    simp only [bytes, List.append_assoc]
    rw [Reader.bind_of_ok hnumber, Reader.takeEach_append]

theorem steady_text : text.Steady where
  keeps := by
    intro input s rest hread more
    obtain ⟨count, between, hcount, hbody⟩ := Reader.bind_eq_ok_iff.1 hread
    obtain ⟨encoded, left, htake, hdecoded⟩ := Reader.bind_eq_ok_iff.1 hbody
    have hlt := Varint.read_lt hcount
    have htext : encoded = Text.Utf8.encode s := by
      cases hs : Text.Utf8.decode encoded with
      | ok s' =>
        simp only [hs] at hdecoded
        cases hdecoded
        exact Text.Utf8.eq_encode_of_decode hs
      | error cause =>
        simp only [hs] at hdecoded
        cases hdecoded
    rw [← Reader.length_of_take htake, htext] at hlt
    have hnumber := Varint.read_write hlt (Text.Utf8.encode s ++ more)
    simp only [text, List.append_assoc]
    rw [Reader.bind_of_ok hnumber,
      Reader.bind_of_ok (Reader.take_append _ more), Text.Utf8.decode_encode]
    rfl

/-! ## Compounds -/

theorem Keeps.pair (ha : c.Keeps a) (hb : d.Keeps b) :
    (pair c d).Keeps (a, b) := by
  intro rest
  have hfirst := ha (d.write b ++ rest)
  simp only [Codec.pair, List.append_assoc]
  rw [Reader.bind_of_ok hfirst, Reader.bind_of_ok (hb rest)]
  rfl

theorem read_pair {input rest : Bytes}
    (hread : (pair c d).read input = .ok ((a, b), rest)) :
    ∃ between, c.read input = .ok (a, between) ∧
      d.read between = .ok (b, rest) := by
  obtain ⟨a', between, ha, hrest⟩ := Reader.bind_eq_ok_iff.1 hread
  obtain ⟨b', left, hb, hdone⟩ := Reader.bind_eq_ok_iff.1 hrest
  cases hdone
  exact ⟨between, ha, hb⟩

theorem Steady.pair (hc : c.Steady) (hd : d.Steady) : (pair c d).Steady where
  keeps := by
    rintro input ⟨a, b⟩ rest hread
    obtain ⟨between, ha, hb⟩ := read_pair hread
    exact (hc.keeps ha).pair (hd.keeps hb)

theorem Keeps.via {view : α → β} {unview : β → α} (ha : d.Keeps (view a))
    (hview : unview (view a) = a) : (d.via view unview).Keeps a := by
  intro rest
  have hread : (d.via view unview).read ((d.via view unview).write a ++ rest) =
      .ok (unview (view a), rest) := Reader.bind_of_ok (ha rest)
  rwa [hview] at hread

theorem read_via {view : α → β} {unview : β → α} {input rest : Bytes}
    (hread : (d.via view unview).read input = .ok (a, rest)) :
    ∃ b, d.read input = .ok (b, rest) ∧ a = unview b := by
  obtain ⟨b, left, hb, hdone⟩ := Reader.bind_eq_ok_iff.1 hread
  cases hdone
  exact ⟨b, hb, rfl⟩

theorem Steady.via {view : α → β} {unview : β → α} (hd : d.Steady)
    (hview : ∀ b, view (unview b) = b) : (d.via view unview).Steady where
  keeps := by
    intro input a rest hread
    obtain ⟨b, hb, rfl⟩ := read_via hread
    refine Keeps.via ?_ (congrArg unview (hview b))
    rw [hview]
    exact hd.keeps hb

/-! ## Tables -/

theorem many_of_keeps {values : List α} (hvalues : ∀ a ∈ values, c.Keeps a)
    (rest : Bytes) :
    Reader.many c.read values.length (values.flatMap c.write ++ rest) =
      .ok (values, rest) := by
  induction values with
  | nil => rfl
  | cons first others ih =>
    obtain ⟨hfirst, hothers⟩ := List.forall_mem_cons.1 hvalues
    rw [List.flatMap_cons, List.append_assoc, List.length_cons, Reader.many,
      Reader.bind_of_ok (hfirst _), Reader.bind_of_ok (ih hothers)]
    rfl

theorem Steady.many (hc : c.Steady) {count : Nat} {input rest : Bytes}
    {values : List α}
    (hread : Reader.many c.read count input = .ok (values, rest)) :
    ∀ a ∈ values, c.Keeps a := by
  induction count generalizing input values with
  | zero =>
    cases hread
    simp
  | succ count ih =>
    obtain ⟨first, between, others, hfirst, hothers, rfl⟩ :=
      Reader.many_succ hread
    exact List.forall_mem_cons.2 ⟨hc.keeps hfirst, ih hothers⟩

variable [Ord κ] [Std.TransOrd κ] {key : Codec κ} {value : Codec α}
  {t : Table κ α}

/-- A table whose pairs are read back, and are not too many to be counted. -/
structure KeepsPairs (key : Codec κ) (value : Codec α)
    (t : Table κ α) : Prop where
  few : t.size < UInt64.size
  pairs : ∀ e ∈ t.toList, (pair key value).Keeps e

omit [Std.TransOrd κ] in
theorem KeepsPairs.filter (ht : KeepsPairs key value t) (test : κ → α → Bool) :
    KeepsPairs key value (t.filter test) where
  few := Nat.lt_of_le_of_lt (List.length_filter_le _ _) ht.few
  pairs := fun e he => ht.pairs e (List.mem_filter.1 he).1

theorem read_table {input rest : Bytes}
    (hread : (table key value).read input = .ok (t, rest)) :
    ∃ pairs between, Varint.read .size input = .ok (pairs.length, between) ∧
      Reader.many (pair key value).read pairs.length between =
        .ok (pairs, rest) ∧
      t = .ofList pairs := by
  obtain ⟨count, between, hcount, hbody⟩ := Reader.bind_eq_ok_iff.1 hread
  obtain ⟨pairs, left, hpairs, hdone⟩ := Reader.bind_eq_ok_iff.1 hbody
  cases hdone
  obtain rfl := Reader.length_of_many hpairs
  exact ⟨pairs, between, hcount, hpairs, rfl⟩

theorem keepsPairs_of_read (hkey : key.Steady) (hvalue : value.Steady)
    {input rest : Bytes}
    (hread : (table key value).read input = .ok (t, rest)) :
    KeepsPairs key value t := by
  obtain ⟨pairs, between, hcount, hpairs, rfl⟩ := read_table hread
  have hkeeps := (hkey.pair hvalue).many hpairs
  exact ⟨Nat.lt_of_le_of_lt (Table.size_ofList_le pairs)
      (Varint.read_lt hcount),
    fun e he => hkeeps e (Table.mem_of_mem_ofList he)⟩

variable [Std.LawfulEqOrd κ] [DecidableEq κ]

theorem KeepsPairs.keeps (ht : KeepsPairs key value t) :
    (table key value).Keeps t := by
  intro rest
  have hnumber (more : Bytes) :
      Varint.read .size (Varint.write t.size ++ more) =
      .ok (t.size, more) := Varint.read_write ht.few more
  simp only [table, writePairs, List.append_assoc]
  rw [show t.toList.length = t.size from rfl, Reader.bind_of_ok (hnumber _)]
  rw [show t.size = t.toList.length from rfl,
    Reader.bind_of_ok (many_of_keeps ht.pairs rest), Table.ofList_of_perm .rfl]
  rfl

theorem Steady.table (hkey : key.Steady) (hvalue : value.Steady) :
    (table key value).Steady where
  keeps := fun hread => (keepsPairs_of_read hkey hvalue hread).keeps

end Codec

end Binary

end Redelivery
