/-!
# Padded text

Text cut to a greatest length and filled with blanks to a least width, both
counted in characters.
-/

namespace Redelivery.Text

/-- Where the text stands in a field that is wider than it. -/
inductive Alignment where
  | left
  | right
  | centre
deriving DecidableEq

/-- The shape of a field: a least width, a greatest length, and a side. -/
structure Field where
  alignment : Alignment := .left
  width : Option Nat := none
  precision : Option Nat := none

/-- The blanks on each side; the odd blank of a centred text stands on its
right. -/
def Alignment.margins (a : Alignment) (missing : Nat) : Nat × Nat :=
  match a with
  | .left => (0, missing)
  | .right => (missing, 0)
  | .centre => (missing / 2, missing - missing / 2)

/-- Cuts the text to the precision and then fills it to the width. -/
def Field.fill (f : Field) (text : String) : String :=
  let kept := match f.precision with
    | some most => text.toList.take most
    | none => text.toList
  let (before, after) := f.alignment.margins (f.width.getD 0 - kept.length)
  String.ofList (List.replicate before ' ' ++ kept ++ List.replicate after ' ')

def padRight (width : Nat) (text : String) : String :=
  Field.fill ⟨.left, some width, none⟩ text

def padLeft (width : Nat) (text : String) : String :=
  Field.fill ⟨.right, some width, none⟩ text

end Redelivery.Text
