/-!
# Binary floating point

The finite numbers of the 64-bit binary format: a significand below `2^53` times a power of two.
`ofDecimal?` reads a decimal number in two steps, each rounded to the nearest number and to the
even one of two nearest: the integer of its digits, then that integer times or over a power of
ten. A long decimal can so end up beside the number nearest to it.
-/

namespace PaymentOrders.Json

structure Binary64 where
  negative : Bool
  significand : Nat
  exponent : Int
  deriving DecidableEq, Repr

namespace Binary64

/-- The least significand of a number with full precision: two to the power of 52. -/
def hiddenBit : Nat := 4503599627370496

def minExponent : Int := -1074

def maxExponent : Int := 971

/-- A quotient rounded to the nearest integer, and to the even one of two nearest. -/
def roundDiv (n d : Nat) : Nat :=
  if 2 * (n % d) < d || (2 * (n % d) == d && n / d % 2 == 0) then n / d else n / d + 1

/-- The fraction `n / d` over two to the power of an exponent. -/
def atExponent (n d : Nat) (exponent : Int) : Nat × Nat :=
  (n * Nat.pow 2 (-exponent).toNat, d * Nat.pow 2 exponent.toNat)

/-- The exponent at which a fraction has a significand of full precision, or the least one. -/
def exponentOf (n d : Nat) : Int :=
  let guess : Int := Nat.log2 n - Nat.log2 d - 52
  let (n, d) := atExponent n d guess
  let exponent := if n / d < hiddenBit then guess - 1 else guess
  if exponent < minExponent then minExponent else exponent

/-- The significand and exponent of a fraction, rounded; none beyond the greatest number. -/
def round? (n d : Nat) : Option (Nat × Int) :=
  if n = 0 then some (0, 0)
  else
    let exponent := exponentOf n d
    let (n, d) := atExponent n d exponent
    let significand := roundDiv n d
    let (significand, exponent) :=
      if significand = 2 * hiddenBit then (hiddenBit, exponent + 1) else (significand, exponent)
    if maxExponent < exponent then none else some (significand, exponent)

def fraction (x : Nat × Int) : Nat × Nat :=
  atExponent x.1 1 (-x.2)

def mul? (x y : Nat × Int) : Option (Nat × Int) :=
  let (a, b) := fraction x
  let (c, d) := fraction y
  round? (a * c) (b * d)

def div? (x y : Nat × Int) : Option (Nat × Int) :=
  let (a, b) := fraction x
  let (c, d) := fraction y
  round? (a * d) (b * c)

/-- The greatest power of ten that is used in one step. -/
def maxPower : Nat := 308

def powerOfTen? (n : Nat) : Option (Nat × Int) :=
  round? (Nat.pow 10 n) 1

/-- A number over a power of ten, taken in at most two steps; after those nothing is left. -/
def overPowerOfTen? (x : Nat × Int) (n : Nat) : Option (Nat × Int) := do
  if n ≤ maxPower then
    div? x (← powerOfTen? n)
  else if n ≤ 2 * maxPower then
    div? (← div? x (← powerOfTen? maxPower)) (← powerOfTen? (n - maxPower))
  else
    some (0, 0)

def timesPowerOfTen? (x : Nat × Int) (n : Nat) : Option (Nat × Int) := do
  if x.1 = 0 then some x
  else if n ≤ maxPower then mul? x (← powerOfTen? n)
  else none

/-- The number that a decimal is read as; none beyond the greatest number. -/
def ofDecimal? (negative : Bool) (digits : Nat) (exponent : Int) : Option Binary64 := do
  let x ← round? digits 1
  let (significand, exponent) ←
    if exponent < 0 then overPowerOfTen? x (-exponent).toNat
    else timesPowerOfTen? x exponent.toNat
  return ⟨negative, significand, exponent⟩

end Binary64

end PaymentOrders.Json
