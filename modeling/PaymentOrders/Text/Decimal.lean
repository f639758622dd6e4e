/-!
# Positional numerals

Digits of a fixed width to any base, and decimal text. `value_digits` says that a fixed
width keeps the number modulo the power of the base.
-/

namespace PaymentOrders.Text

/-- The `width` lowest digits of a number to the given base, highest first. -/
def digits (base : Nat) : Nat → Nat → List Nat
  | 0, _ => []
  | width + 1, n => digits base width (n / base) ++ [n % base]

/-- The number that digits stand for, highest digit first. -/
def value (base : Nat) (ds : List Nat) : Nat :=
  ds.foldl (fun n d => n * base + d) 0

@[simp] theorem length_digits (base width n : Nat) : (digits base width n).length = width := by
  induction width generalizing n with
  | zero => rfl
  | succ width ih => simp [digits, ih]

theorem value_append_singleton (base : Nat) (ds : List Nat) (d : Nat) :
    value base (ds ++ [d]) = value base ds * base + d := by
  simp [value]

theorem value_digits (base width n : Nat) :
    value base (digits base width n) = n % Nat.pow base width := by
  induction width generalizing n with
  | zero => simp [digits, value, Nat.pow, Nat.mod_one]
  | succ width ih =>
      have split : n % Nat.pow base (width + 1) =
          n % base + base * (n / base % Nat.pow base width) := by
        rw [← Nat.mod_mul]
        exact congrArg (n % ·) (Nat.mul_comm ..)
      rw [digits, value_append_singleton, ih, split, Nat.mul_comm, Nat.add_comm]

/-- The value of a decimal digit; every other character counts as zero. -/
def digitValue (c : Char) : Nat :=
  if c.isDigit then c.toNat - '0'.toNat else 0

def hexValue? (c : Char) : Option Nat :=
  if '0' ≤ c && c ≤ '9' then some (c.toNat - '0'.toNat)
  else if 'a' ≤ c && c ≤ 'f' then some (c.toNat - 'a'.toNat + 10)
  else if 'A' ≤ c && c ≤ 'F' then some (c.toNat - 'A'.toNat + 10)
  else none

def decimalValue (cs : List Char) : Nat :=
  value 10 (cs.map digitValue)

/-- The `width` lowest decimal digits of a number. -/
def fixedDecimal (width n : Nat) : List Char :=
  (digits 10 width n).map Nat.digitChar

/-- A number in decimal, filled up with zeros on the left to at least `width` digits. -/
def paddedDecimal (width n : Nat) : List Char :=
  (Nat.toDigits 10 n).leftpad width '0'

@[simp] theorem length_fixedDecimal (width n : Nat) : (fixedDecimal width n).length = width := by
  simp [fixedDecimal]

end PaymentOrders.Text
