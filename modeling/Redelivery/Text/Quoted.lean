import Redelivery.Text.Extending
import Redelivery.Text.Unprintable

/-!
# Quoted text

Text between quotes in which every character can be seen: quotes and backslashes
after a backslash, common controls by a letter, and what has no form of its own
by its number in hexadecimal.
-/

namespace Redelivery.Text

/-- The lower-case hexadecimal digits of a number, without leading zeros. -/
def hexadecimal (n : Nat) : List Char :=
  Nat.toDigits 16 n

def quotedChar (c : Char) : List Char :=
  if c = '\x00' then ['\\', '0']
  else if c = '\t' then ['\\', 't']
  else if c = '\r' then ['\\', 'r']
  else if c = '\n' then ['\\', 'n']
  else if c = '"' || c = '\\' then ['\\', c]
  else if extending.holds c || unprintable.holds c then
    ['\\', 'u', '\x7b'] ++ hexadecimal c.toNat ++ ['\x7d']
  else [c]

def quoted (text : String) : String :=
  String.ofList ('"' :: text.toList.flatMap quotedChar ++ ['"'])

end Redelivery.Text
