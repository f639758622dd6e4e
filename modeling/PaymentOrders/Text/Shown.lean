import PaymentOrders.Text.Combining
import PaymentOrders.Text.Ignorable
import PaymentOrders.Text.Unprintable
/-!
# Texts in messages

A text in quotes in which every character can be seen: quotes, backslashes, marks that combine
with the character before them, characters without a shape, and characters that cannot be printed
are written by name or number.
-/

namespace PaymentOrders.Text

/-- Whether a character, on its own, is seen as one. -/
def isVisible (c : Char) : Bool :=
  !Ranges.contains combining c.toNat && !Ranges.contains ignorable c.toNat &&
    !Ranges.contains unprintable c.toNat

def numbered (c : Char) : List Char :=
  "\\u\x7b".toList ++ Nat.toDigits 16 c.toNat ++ "\x7d".toList

def showChar (c : Char) : List Char :=
  if c = '"' then ['\\', '"']
  else if c = '\\' then ['\\', '\\']
  else if c = '\n' then ['\\', 'n']
  else if c = '\r' then ['\\', 'r']
  else if c = '\t' then ['\\', 't']
  else if c.toNat = 0 then ['\\', '0']
  else if isVisible c then [c]
  else numbered c

def quoted (s : String) : String :=
  String.ofList ('"' :: (s.toList.flatMap showChar ++ ['"']))

end PaymentOrders.Text
