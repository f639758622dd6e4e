import PaymentOrders.Text.Decimal
/-!
# Check digits

The Luhn check digit, taken over the UTF-8 bytes of a text: counted from the right, every
byte at an even position weighs double. `weightedSum` is the same sum without reduction.
-/

namespace PaymentOrders.CheckDigit

/-- What the bytes of one character contribute: a decimal digit its value, every byte of any
other character zero. -/
def places (c : Char) : List UInt8 :=
  if c.isDigit then [(Text.digitValue c).toUInt8] else List.replicate c.utf8Size 0

/-- The byte values of a text, last byte first. -/
def placesFromRight (cs : List Char) : List UInt8 :=
  (cs.flatMap places).reverse

/-- Twice a digit, less nine when that exceeds nine. -/
def doubled (d : UInt8) : UInt8 :=
  if d * 2 > 9 then d * 2 - 9 else d * 2

def weight (double : Bool) (d : UInt8) : UInt8 :=
  if double then doubled d else d

/-- The sum of the weights, kept below ten after each position. -/
def runningSum (sum : UInt8) (double : Bool) : List UInt8 → UInt8
  | [] => sum
  | d :: ds => runningSum ((sum + weight double d) % 10) (!double) ds

/-- The sum of the weights, not reduced. -/
def weightedSum (double : Bool) : List UInt8 → Nat
  | [] => 0
  | d :: ds => (weight double d).toNat + weightedSum (!double) ds

/-- The digit that completes the weighted sum to a multiple of ten. -/
def compute (cs : List Char) : UInt8 :=
  (10 - runningSum 0 true (placesFromRight cs)) % 10

def toChar (d : UInt8) : Char :=
  Nat.digitChar d.toNat

/-- Whether the last character is a digit and the check digit of everything before it. -/
def verifies (cs : List Char) : Bool :=
  match cs.getLast? with
  | none => false
  | some c => c.isDigit && (compute cs.dropLast).toNat == Text.digitValue c

def complete (cs : List Char) : List Char :=
  cs ++ [toChar (compute cs)]

@[simp] theorem verifies_nil : verifies [] = false := rfl

theorem verifies_append_singleton (cs : List Char) (c : Char) :
    verifies (cs ++ [c]) = (c.isDigit && (compute cs).toNat == Text.digitValue c) := by
  simp [verifies]

end PaymentOrders.CheckDigit
