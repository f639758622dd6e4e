import PaymentOrders.Json.Binary64
/-!
# The shortest decimal of a number

Of all decimals that are nearer to a number than to any other number of its format, the one
with the fewest digits, and of those the nearest. It is looked for on one decimal grid after
the other, each ten times finer than the one before.
-/

namespace PaymentOrders.Json.Binary64

/-- The numbers around a number `x` from which the decimal is taken, as multiples of one unit:
`low < 4 * significand < high`. -/
structure Neighbourhood where
  low : Nat
  middle : Nat
  high : Nat
  /-- Whether the ends belong to it. -/
  closed : Bool
  deriving DecidableEq, Repr

/-- The decimals that read as a number, in quarters of its last place. The numbers below a power
of two lie twice as close. -/
def neighbourhood (significand : Nat) (exponent : Int) : Neighbourhood where
  low := 4 * significand -
    (if significand = hiddenBit ∧ minExponent < exponent then 1 else 2)
  middle := 4 * significand
  high := 4 * significand + 2
  closed := significand % 2 == 0

/-- The decimal exponent of the leading digit of the fraction `n / d`, which is not zero. -/
def leadingExponent (n d : Nat) : Nat → Int
  | 0 => 0
  | fuel + 1 =>
      if d ≤ n then (Nat.toDigits 10 (n / d)).length - 1
      else leadingExponent (n * 10) d fuel - 1

/-- The multiple of a power of ten in a neighbourhood that is nearest to its middle. -/
def onGrid? (around : Neighbourhood) (unit exponent : Int) : Option Nat :=
  let scale := Nat.pow 2 unit.toNat * Nat.pow 10 (-exponent).toNat
  let step := Nat.pow 10 exponent.toNat * Nat.pow 2 (-unit).toNat
  let below := around.middle * scale / step
  let rest := around.middle * scale % step
  let within (a b : Nat) : Bool := a < b || (around.closed && a == b)
  let belowFits := within (around.low * scale) (below * step)
  let aboveFits := within ((below + 1) * step) (around.high * scale)
  if rest = 0 then some below
  else if belowFits && aboveFits then
    if 2 * rest < step || (2 * rest == step && below % 2 == 0) then some below
    else some (below + 1)
  else if belowFits then some below
  else if aboveFits then some (below + 1)
  else none

/-- The first grid with a decimal of a neighbourhood, from a grid on. -/
def onFirstGrid (around : Neighbourhood) (unit : Int) : Nat → Int → Nat × Int
  | 0, _ => (0, 0)
  | fuel + 1, exponent =>
      match onGrid? around unit exponent with
      | some digits => (digits, exponent)
      | none => onFirstGrid around unit fuel (exponent - 1)

def stripZeros : Nat → Nat × Int → Nat × Int
  | 0, x => x
  | fuel + 1, (digits, exponent) =>
      if digits ≠ 0 ∧ digits % 10 = 0 then stripZeros fuel (digits / 10, exponent + 1)
      else (digits, exponent)

/-- The digits and the decimal exponent of the shortest decimal. -/
def shortest (x : Binary64) : Nat × Int :=
  if x.significand = 0 then (0, 0)
  else
    let (n, d) := fraction (x.significand, x.exponent)
    let around := neighbourhood x.significand x.exponent
    stripZeros 20 (onFirstGrid around (x.exponent - 2) 20 (leadingExponent n d 400))

def pointed : List Char → List Char
  | [] => []
  | [d] => [d]
  | d :: ds => d :: '.' :: ds

def exponentText (exponent : Int) : List Char :=
  let digits := Nat.toDigits 10 exponent.natAbs
  (if exponent < 0 then '-' else '+') :: digits

/-- A number in decimal. Numbers from `1e-5` to below `1e16` are written without an exponent;
they always have a point. -/
def toText (x : Binary64) : String :=
  let (digits, exponent) := x.shortest
  let ds := Nat.toDigits 10 digits
  let point : Int := ds.length + exponent
  let body :=
    if digits = 0 then "0.0".toList
    else if 0 ≤ exponent ∧ point ≤ 16 then ds ++ List.replicate exponent.toNat '0' ++ ".0".toList
    else if 0 < point ∧ point ≤ 16 then ds.take point.toNat ++ '.' :: ds.drop point.toNat
    else if -5 < point ∧ point ≤ 0 then
      "0.".toList ++ List.replicate (-point).toNat '0' ++ ds
    else pointed ds ++ 'e' :: exponentText (point - 1)
  String.ofList (if x.negative then '-' :: body else body)

end PaymentOrders.Json.Binary64
