import Redelivery.Binary.Codec
import Redelivery.Table.Lemmas

/-!
# Written forms

A form says which bytes may stand for which values; a table has one form for
each order of its pairs.  A reader is exact for a form if it reads every written
value back, whatever follows it, and if more bytes behind a value that it has
read change nothing.  The two laws pass from parts to compounds, and together
they refuse every form that is cut short.
-/

namespace Redelivery.Binary

variable {α β κ : Type}

/-- Which bytes may stand for which values. -/
abbrev Form (α : Type) := α → Bytes → Prop

namespace Form

def bind (F : Form α) (G : α → Form β) : Form β := fun b bytes =>
  ∃ a first second, F a first ∧ G a b second ∧ bytes = first ++ second

def pair (F : Form α) (G : Form β) : Form (α × β) := fun ab bytes =>
  ∃ first second, F ab.1 first ∧ G ab.2 second ∧ bytes = first ++ second

def via (F : Form β) (view : α → β) : Form α := fun a =>
  F (view a)

def all (F : Form α) : Form (List α)
  | [], bytes => bytes = []
  | a :: rest, bytes =>
    ∃ first others, F a first ∧ F.all rest others ∧ bytes = first ++ others

def table [Ord κ] (F : Form (κ × α)) : Form (Table κ α) := fun t bytes =>
  ∃ pairs body, pairs.Perm t.toList ∧ F.all pairs body ∧
    bytes = Varint.write pairs.length ++ body

theorem pair_append {F : Form α} {G : Form β} {a : α} {b : β}
    {first second : Bytes} (hfirst : F a first) (hsecond : G b second) :
    F.pair G (a, b) (first ++ second) :=
  ⟨first, second, hfirst, hsecond, rfl⟩

def Even (F : Form α) : Prop :=
  ∀ ⦃a one other⦄, F a one → F a other → one.length = other.length

theorem Even.pair {F : Form α} {G : Form β} (hfirst : F.Even)
    (hsecond : G.Even) :
    (F.pair G).Even := by
  rintro ab one other ⟨_, _, hone, hone', rfl⟩ ⟨_, _, hother, hother', rfl⟩
  rw [List.length_append, List.length_append, hfirst hone hother,
    hsecond hone' hother']

theorem Even.via {F : Form β} (h : F.Even) (view : α → β) : (F.via view).Even :=
  fun _ _ _ hone hother => h hone hother

theorem Even.all {F : Form α} (h : F.Even) : F.all.Even := by
  intro values
  induction values with
  | nil =>
    rintro one other rfl rfl
    rfl
  | cons a rest ih =>
    rintro one other ⟨_, _, hone, hone', rfl⟩ ⟨_, _, hother, hother', rfl⟩
    rw [List.length_append, List.length_append, h hone hother, ih hone' hother']

/-- In another order, values can be written with as many bytes. -/
theorem all_of_perm {F : Form α} {values reordered : List α}
    (hperm : values.Perm reordered) {bytes : Bytes}
    (hform : F.all values bytes) :
    ∃ other, F.all reordered other ∧ other.length = bytes.length := by
  induction hperm generalizing bytes with
  | nil => exact ⟨bytes, hform, rfl⟩
  | cons a _ ih =>
    obtain ⟨first, others, hfirst, hothers, rfl⟩ := hform
    obtain ⟨other, hother, hlength⟩ := ih hothers
    exact ⟨first ++ other, ⟨first, other, hfirst, hother, rfl⟩,
      by simp [hlength]⟩
  | swap a b rest =>
    obtain ⟨one, _, hone, ⟨two, others, htwo, hothers, rfl⟩, rfl⟩ := hform
    refine ⟨two ++ (one ++ others),
      ⟨two, _, htwo, ⟨one, others, hone, hothers, rfl⟩, rfl⟩, ?_⟩
    simp only [List.length_append]
    omega
  | trans _ _ ih ih' =>
    obtain ⟨between, hbetween, hlength⟩ := ih hform
    obtain ⟨other, hother, hlength'⟩ := ih' hbetween
    exact ⟨other, hother, hlength'.trans hlength⟩

theorem Even.table [Ord κ] {F : Form (κ × α)} (h : F.Even) :
    (Form.table F).Even := by
  rintro t _ _ ⟨pairs, one, hpairs, hone, rfl⟩
    ⟨pairs', other, hpairs', hother, rfl⟩
  have hperm := hpairs.trans hpairs'.symm
  obtain ⟨reordered, hreordered, hlength⟩ := all_of_perm hperm hone
  rw [List.length_append, List.length_append, hperm.length_eq, ← hlength,
    h.all hreordered hother]

end Form

/-- The form that a codec writes. -/
def Codec.form (c : Codec α) : Form α := fun a bytes =>
  bytes = c.write a

/-- A reader reads what has a form, as far as lengths of 64 bits go, and does
not look behind what it reads. -/
structure Reader.Exact (read : Reader α) (F : Form α) : Prop where
  reads : ∀ {a bytes}, F a bytes → bytes.length < UInt64.size → ∀ rest,
    read (bytes ++ rest) = .ok (a, rest)
  stays : ∀ {a input rest}, read input = .ok (a, rest) → ∀ more,
    read (input ++ more) = .ok (a, rest ++ more)

theorem Codec.even_form (c : Codec α) : c.form.Even := by
  rintro a one other rfl rfl
  rfl

/-- The reader of a codec is exact for what the codec writes. -/
def Codec.Exact (c : Codec α) : Prop :=
  c.read.Exact c.form

namespace Reader

variable {read : Reader α} {F G : Form α}

/-- What is cut short is refused: read as a whole, it would leave what was cut
off. -/
theorem Exact.refuses (h : read.Exact F) {a : α} {bytes cut : Bytes}
    (hform : F a bytes) (hshort : bytes.length < UInt64.size)
    (hcut : cut <+: bytes) (hproper : cut ≠ bytes) :
    ∃ cause, read cut = .error cause := by
  obtain ⟨missing, rfl⟩ := hcut
  cases hread : read cut with
  | error cause => exact ⟨cause, rfl⟩
  | ok answer =>
    obtain ⟨b, rest⟩ := answer
    have hlonger := h.stays hread missing
    have hwhole := h.reads hform hshort []
    rw [List.append_nil, hlonger] at hwhole
    have hnothing : rest ++ missing = [] :=
      (Prod.mk.inj (Except.ok.inj hwhole)).2
    have hmissing : missing = [] := (List.append_eq_nil_iff.1 hnothing).2
    simp [hmissing] at hproper

theorem Exact.mono (h : read.Exact F)
    (hsub : ∀ {a bytes}, bytes.length < UInt64.size → G a bytes → F a bytes) :
    read.Exact G where
  reads := fun hform hshort => h.reads (hsub hshort hform) hshort
  stays := h.stays

/-! ## Readers of parts -/

theorem bind_of_ok {next : α → Reader β} {input rest : Bytes} {a : α}
    (hread : read input = .ok (a, rest)) :
    (read >>= next) input = next a rest := by
  change Reader.bind read next input = next a rest
  simp only [Reader.bind, hread]

theorem bind_eq_ok_iff {next : α → Reader β} {input rest : Bytes} {b : β} :
    (read >>= next) input = .ok (b, rest) ↔
      ∃ a between, read input = .ok (a, between) ∧
        next a between = .ok (b, rest) := by
  change Reader.bind read next input = .ok (b, rest) ↔ _
  unfold Reader.bind
  cases hread : read input with
  | error cause => simp
  | ok answer =>
    obtain ⟨a, between⟩ := answer
    constructor
    · intro hnext
      exact ⟨a, between, rfl, hnext⟩
    · rintro ⟨_, _, ⟨rfl, rfl⟩, hnext⟩
      exact hnext

/-- A reader after a reader. -/
theorem Exact.bind {next : α → Reader β} {G : α → Form β} (hread : read.Exact F)
    (hnext : ∀ a, (next a).Exact (G a)) : (read >>= next).Exact (F.bind G) where
  reads := by
    rintro b bytes ⟨a, first, second, hfirst, hsecond, rfl⟩ hshort rest
    rw [List.length_append] at hshort
    have hbefore := hread.reads hfirst (by omega) (second ++ rest)
    rw [List.append_assoc, bind_of_ok hbefore]
    exact (hnext a).reads hsecond (by omega) rest
  stays := by
    intro b input rest hboth more
    obtain ⟨a, between, hfirst, hsecond⟩ := bind_eq_ok_iff.1 hboth
    rw [bind_of_ok (hread.stays hfirst more)]
    exact (hnext a).stays hsecond more

theorem exact_pure (a : α) :
    (pure a : Reader α).Exact fun b bytes => b = a ∧ bytes = [] where
  reads := by
    rintro b bytes ⟨rfl, rfl⟩ _ rest
    rfl
  stays := by
    intro b input rest hread more
    cases hread
    rfl

theorem exact_fail (cause : ReadError) :
    (fail cause : Reader α).Exact fun _ _ => False where
  reads := fun hform => hform.elim
  stays := fun hread => by cases hread

/-- A value that is seen as another one. -/
theorem Exact.map (h : read.Exact F) (f : α → β) :
    (f <$> read).Exact fun b bytes => ∃ a, f a = b ∧ F a bytes := by
  have hboth := h.bind fun a => exact_pure (f a)
  apply hboth.mono
  rintro b bytes _ ⟨a, rfl, hform⟩
  exact ⟨a, bytes, [], hform, ⟨rfl, rfl⟩, (List.append_nil bytes).symm⟩

theorem take_append (bytes rest : Bytes) :
    take bytes.length (bytes ++ rest) = .ok (bytes, rest) := by
  simp [take]

theorem takeEach_append (bytes rest : Bytes) :
    takeEach bytes.length (bytes ++ rest) = .ok (bytes, rest) := by
  simp [takeEach]

theorem exact_take (count : Nat) :
    (take count).Exact fun taken bytes => taken = bytes ∧
    bytes.length = count where
  reads := by
    rintro taken bytes ⟨rfl, rfl⟩ _ rest
    exact take_append taken rest
  stays := by
    intro taken input rest hread more
    unfold take at hread
    split at hread
    next hlong =>
      cases hread
      have hstill : count ≤ (input ++ more).length := by
        rw [List.length_append]
        omega
      rw [take, if_pos hstill, List.take_append_of_le_length hlong,
        List.drop_append_of_le_length hlong]
    next => cases hread

theorem exact_takeEach (count : Nat) :
    (takeEach count).Exact fun taken bytes => taken = bytes ∧
    bytes.length = count where
  reads := by
    rintro taken bytes ⟨rfl, rfl⟩ _ rest
    exact takeEach_append taken rest
  stays := by
    intro taken input rest hread more
    unfold takeEach at hread
    split at hread
    next hlong =>
      cases hread
      have hstill : count ≤ (input ++ more).length := by
        rw [List.length_append]
        omega
      rw [takeEach, if_pos hstill, List.take_append_of_le_length hlong,
        List.drop_append_of_le_length hlong]
    next => cases hread

theorem Exact.many (h : read.Exact F) (count : Nat) :
    (many read count).Exact fun values bytes => values.length = count ∧
    F.all values bytes := by
  induction count with
  | zero =>
    apply (exact_pure []).mono
    rintro values bytes _ ⟨hempty, hform⟩
    obtain rfl := List.length_eq_zero_iff.1 hempty
    exact ⟨rfl, hform⟩
  | succ count ih =>
    have hall :=
      h.bind fun first => ih.bind fun others => exact_pure (first :: others)
    apply hall.mono
    rintro values bytes _ ⟨hcount, hform⟩
    cases values with
    | nil => cases hcount
    | cons a rest =>
      obtain ⟨first, others, hfirst, hothers, rfl⟩ := hform
      have hrest : rest.length = count := by simpa using hcount
      exact ⟨a, first, others, hfirst,
        ⟨rest, others, [], ⟨hrest, hothers⟩, ⟨rfl, rfl⟩,
          (List.append_nil others).symm⟩, rfl⟩

end Reader

/-! ## Whole numbers -/

namespace Varint

theorem length_write_pos (n : Nat) : 0 < (write n).length := by
  unfold write
  split
  · simp
  · split
    · simp
    · split <;> simp

theorem read_of_announced {place width : IntegerType} {mark : UInt8}
    {count n : Nat} (hmark : announced mark = some (count, width))
    (hroom : count ≤ room place) (hn : n < Bytes.capacity count)
    (rest : Bytes) :
    read place (mark :: Bytes.littleEndian count n ++ rest) =
      .ok (n, rest) := by
  have htake : Reader.take count (Bytes.littleEndian count n ++ rest) =
      .ok (Bytes.littleEndian count n, rest) := by
    have htaken := Reader.take_append (Bytes.littleEndian count n) rest
    rwa [Bytes.length_littleEndian] at htaken
  simp only [read, List.cons_append, hmark, if_pos hroom, htake,
    Bytes.ofLittleEndian_littleEndian hn]

/-- A number is read back in every place that has room for it. -/
theorem read_write {place : IntegerType} {n : Nat}
    (hn : n < Bytes.capacity (room place)) (rest : Bytes) :
    read place (write n ++ rest) = .ok (n, rest) := by
  have hroom : room place = 2 ∨ room place = 4 ∨ room place = 8 := by
    cases place <;> decide
  have htwo : Bytes.capacity 2 = 65536 := rfl
  have hfour : Bytes.capacity 4 = 4294967296 := rfl
  unfold write
  split
  next hsmall =>
    have hsmall : n < 251 := hsmall
    have hmark : (UInt8.ofNat n).toNat = n := by
      rw [UInt8.toNat_ofNat']
      omega
    have hnone : announced (UInt8.ofNat n) = none := by
      unfold announced
      rw [hmark]
      split <;> first | rfl | omega
    simp only [read, List.cons_append, List.nil_append, hnone, hmark]
  next =>
    split
    next h16 => exact read_of_announced rfl (by omega) h16 rest
    next h16 =>
      have h16 : ¬ n < 65536 := h16
      split
      next h32 =>
        refine read_of_announced rfl ?_ h32 rest
        rcases hroom with h | h | h <;> rw [h] at hn ⊢ <;> omega
      next h32 =>
        have h32 : ¬ n < 4294967296 := h32
        have height : room place = 8 := by
          rcases hroom with h | h | h
          · rw [h] at hn
            omega
          · rw [h] at hn
            omega
          · exact h
        rw [height] at hn
        exact read_of_announced rfl (Nat.le_of_eq height.symm) hn rest

theorem exact_read (place : IntegerType) :
    (read place).Exact fun n bytes => n < Bytes.capacity (room place) ∧
    bytes = write n where
  reads := by
    rintro n bytes ⟨hn, rfl⟩ _ rest
    exact read_write hn rest
  stays := by
    intro n input rest hread more
    cases input with
    | nil => cases hread
    | cons mark body =>
      simp only [read] at hread
      rw [List.cons_append]
      simp only [read]
      split at hread
      next hnone =>
        cases hread
        rfl
      next count width hmark =>
        split at hread
        next hroom =>
          rw [if_pos hroom]
          split at hread
          next taken left htake =>
            cases hread
            rw [(Reader.exact_take count).stays htake more]
          next => cases hread
        next => cases hread

end Varint

/-! ## Codecs -/

namespace Codec

theorem exact_uint16 : uint16.Exact := by
  apply ((Varint.exact_read .u16).map UInt16.ofNat).mono
  rintro n bytes _ rfl
  exact ⟨n.toNat, by simp, n.toNat_lt, rfl⟩

theorem exact_uint32 : uint32.Exact := by
  apply ((Varint.exact_read .u32).map UInt32.ofNat).mono
  rintro n bytes _ rfl
  exact ⟨n.toNat, by simp, n.toNat_lt, rfl⟩

theorem exact_uint64 : uint64.Exact := by
  apply ((Varint.exact_read .u64).map UInt64.ofNat).mono
  rintro n bytes _ rfl
  exact ⟨n.toNat, by simp, n.toNat_lt, rfl⟩

theorem exact_bytes : bytes.Exact := by
  apply ((Varint.exact_read .size).bind fun count =>
    Reader.exact_takeEach count).mono
  rintro value written hshort rfl
  have hlength : value.length < UInt64.size := by
    simp only [bytes, List.length_append] at hshort
    omega
  exact ⟨value.length, _, value, ⟨hlength, rfl⟩, ⟨rfl, rfl⟩, rfl⟩

/-- The text of bytes that are known. -/
theorem exact_decoded (encoded : Bytes) :
    Reader.Exact
      (match Text.Utf8.decode encoded with
      | .ok s => pure s
      | .error cause => Reader.fail (.invalidText cause) : Reader String)
      fun s written => Text.Utf8.encode s = encoded ∧ written = [] := by
  cases hdecoded : Text.Utf8.decode encoded with
  | error cause =>
    apply (Reader.exact_fail _).mono
    rintro s written _ ⟨rfl, _⟩
    rw [Text.Utf8.decode_encode] at hdecoded
    cases hdecoded
  | ok s =>
    apply (Reader.exact_pure s).mono
    rintro s' written _ ⟨rfl, hnothing⟩
    rw [Text.Utf8.decode_encode] at hdecoded
    cases hdecoded
    exact ⟨rfl, hnothing⟩

theorem exact_text : text.Exact := by
  have hparts := (Varint.exact_read .u64).bind fun count =>
    (Reader.exact_take count).bind fun encoded => exact_decoded encoded
  apply hparts.mono
  rintro s written hshort rfl
  have hlength : (Text.Utf8.encode s).length < UInt64.size := by
    simp only [text, List.length_append] at hshort
    omega
  exact ⟨_, _, _, ⟨hlength, rfl⟩,
    ⟨_, _, [], ⟨rfl, rfl⟩, ⟨rfl, rfl⟩, (List.append_nil _).symm⟩, rfl⟩

theorem exact_choice {index : α → Nat} {ofIndex? : Nat → Option α} {count : Nat}
    (hindex : ∀ a, ofIndex? (index a) = some a)
    (hsmall : ∀ a, index a < UInt32.size) :
    (choice index ofIndex? count).Exact := by
  refine Reader.Exact.mono ((Varint.exact_read .u32).bind
    (G := fun n a written => index a = n ∧ written = []) ?_) ?_
  · intro n
    cases hfound : ofIndex? n with
    | none =>
      apply (Reader.exact_fail _).mono
      rintro a written _ ⟨rfl, _⟩
      rw [hindex] at hfound
      cases hfound
    | some a =>
      apply (Reader.exact_pure a).mono
      rintro a' written _ ⟨rfl, hnothing⟩
      rw [hindex] at hfound
      cases hfound
      exact ⟨rfl, hnothing⟩
  · rintro a written _ rfl
    exact ⟨index a, _, [], ⟨hsmall a, rfl⟩, ⟨rfl, rfl⟩,
      (List.append_nil _).symm⟩

/-- Two parts with forms of their own. -/
theorem exact_pair {first : Codec α} {second : Codec β} {F : Form α}
    {G : Form β} (hfirst : first.read.Exact F) (hsecond : second.read.Exact G) :
    (pair first second).read.Exact (F.pair G) := by
  have hparts :=
    hfirst.bind fun a => hsecond.bind fun b => Reader.exact_pure (a, b)
  apply hparts.mono
  rintro ⟨a, b⟩ bytes _ ⟨one, other, hone, hother, rfl⟩
  exact ⟨a, one, other, hone,
    ⟨b, other, [], hother, ⟨rfl, rfl⟩, (List.append_nil other).symm⟩, rfl⟩

/-- Another view of what has a form of its own. -/
theorem exact_via {c : Codec β} {F : Form β} {view : α → β} {unview : β → α}
    (hread : c.read.Exact F) (hview : ∀ a, unview (view a) = a) :
    (c.via view unview).read.Exact (F.via view) := by
  apply (hread.map unview).mono
  rintro a bytes _ hform
  exact ⟨view a, hview a, hform⟩

theorem Exact.pair {first : Codec α} {second : Codec β} (hfirst : first.Exact)
    (hsecond : second.Exact) : (first.pair second).Exact := by
  apply (exact_pair hfirst hsecond).mono
  rintro ab bytes _ rfl
  exact ⟨_, _, rfl, rfl, rfl⟩

theorem Exact.via {c : Codec β} {view : α → β} {unview : β → α}
    (hread : c.Exact) (hview : ∀ a, unview (view a) = a) :
    (c.via view unview).Exact :=
  exact_via hread hview

/-! ## Tables -/

theorem length_le_of_all {F : Form α}
    (hsolid : ∀ a bytes, F a bytes → 0 < bytes.length) {values : List α}
    {bytes : Bytes} (hform : F.all values bytes) :
    values.length ≤ bytes.length := by
  induction values generalizing bytes with
  | nil => simp
  | cons a rest ih =>
    obtain ⟨first, others, hfirst, hothers, rfl⟩ := hform
    have hone := hsolid a first hfirst
    have hmore := ih hothers
    simp only [List.length_cons, List.length_append]
    omega

variable [Ord κ] [Std.TransOrd κ] [Std.LawfulEqOrd κ] [DecidableEq κ]

/-- A table is read back from its pairs in any order. -/
theorem exact_table {key : Codec κ} {value : Codec α} {F : Form (κ × α)}
    (hread : (pair key value).read.Exact F)
    (hsolid : ∀ e bytes, F e bytes → 0 < bytes.length) :
    (table key value).read.Exact F.table := by
  have hparts := (Varint.exact_read .size).bind fun count =>
    (hread.many count).bind fun pairs => Reader.exact_pure (Table.ofList pairs)
  apply hparts.mono
  rintro t bytes hshort ⟨pairs, body, hperm, hform, rfl⟩
  have hcount : pairs.length < UInt64.size := by
    have hbody := length_le_of_all hsolid hform
    rw [List.length_append] at hshort
    omega
  exact ⟨pairs.length, _, body, ⟨hcount, rfl⟩,
    ⟨pairs, body, [], ⟨rfl, hform⟩, ⟨(Table.ofList_of_perm hperm).symm, rfl⟩,
      (List.append_nil body).symm⟩, rfl⟩

omit [Std.LawfulEqOrd κ] [DecidableEq κ] [Std.TransOrd κ] in
/-- A table may be written as its pairs in whatever order. -/
theorem form_writePairs {key : Codec κ} {value : Codec α} {F : Form (κ × α)}
    {t : Table κ α} {pairs : List (κ × α)} (hperm : pairs.Perm t.toList)
    (hform : ∀ e ∈ pairs, F e ((pair key value).write e)) :
    F.table t (writePairs key value pairs) := by
  refine ⟨pairs, pairs.flatMap (pair key value).write, hperm, ?_, rfl⟩
  clear hperm
  induction pairs with
  | nil => rfl
  | cons e rest ih =>
    refine ⟨_, _, hform e (by simp), ih fun e he => hform e (by simp [he]), ?_⟩
    rw [List.flatMap_cons]

end Codec

end Redelivery.Binary
