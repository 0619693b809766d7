/-!
# Message ids

The name of one logical send, which stays the same through its resends.  Ids are
ordered as their texts are, by code points.
-/

namespace Redelivery

/-- The name of one logical send. -/
structure MessageId where
  text : String
deriving DecidableEq, Inhabited

namespace MessageId

instance : Ord MessageId := ⟨fun a b => compare a.text b.text⟩

instance : Std.TransOrd MessageId where
  eq_swap {a b} :=
    Std.OrientedOrd.eq_swap (α := String) (a := a.text) (b := b.text)
  isLE_trans {a b c} :=
    Std.TransOrd.isLE_trans (α := String) (a := a.text) (b := b.text)
      (c := c.text)

instance : Std.LawfulEqOrd MessageId where
  compare_self {a} := Std.ReflOrd.compare_self (α := String) (a := a.text)
  eq_of_compare {a b} h := by
    have same : a.text = b.text := Std.LawfulEqOrd.eq_of_compare h
    cases a; cases b; simp_all

/-- The digits of new ids; letters that look like digits are left out. -/
def digits : Array Char :=
  "0123456789ABCDEFGHJKMNPQRSTVWXYZ".toList.toArray

def lowDigits : Nat → Nat → List Char
  | 0, _ => []
  | count + 1, n => lowDigits count (n / 32) ++ [digits.getD (n % 32) '0']

/-- The times that new ids tell apart, which take 48 bits. -/
def timeSpan : Nat := 281474976710656

/-- The id of a new message: ten digits of the time, and then sixteen of
chance. -/
def new (now : UInt64) (chance : Nat) : MessageId :=
  ⟨String.ofList (lowDigits 10 (now.toNat % timeSpan) ++ lowDigits 16 chance)⟩

def looksNew (id : MessageId) : Bool :=
  id.text.length == 26 && id.text.toList.all digits.contains

end MessageId

end Redelivery
