import ImportOrder.Text.Lowercase
import ImportOrder.Text.PrintData

/-!
# Quoted texts

Messages quote the texts they speak of so that every character can be seen: quotes,
backslashes and the usual controls are written with a backslash, and characters without
a visible form of their own by their code point in braces.
-/

namespace ImportOrder

/-- The digits of a number in base sixteen, lower case, without leading zeros. -/
def hexDigits (n : Nat) : List Char := Nat.toDigits 16 n

/-- The character is shown as it is. -/
def isVisible (c : Char) : Bool := !inRanges extendingRanges c && !inRanges unprintableRanges c

/-- A character as it stands inside quotes. -/
def quotedChar (c : Char) : List Char :=
  if c = '\x00' then ['\\', '0']
  else if c = '\t' then ['\\', 't']
  else if c = '\r' then ['\\', 'r']
  else if c = '\n' then ['\\', 'n']
  else if c = '"' then ['\\', '"']
  else if c = '\\' then ['\\', '\\']
  else if isVisible c then [c]
  else ['\\', 'u', '{'] ++ hexDigits c.toNat ++ ['}']

/-- A text between double quotes. -/
def quoted (s : String) : String := String.ofList ('"' :: s.toList.flatMap quotedChar ++ ['"'])

end ImportOrder
