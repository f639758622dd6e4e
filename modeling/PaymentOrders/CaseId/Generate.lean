import PaymentOrders.CaseId
/-!
# Fresh case ids

A fresh case id is made of the first eleven digits of the time in milliseconds, four random
digits and the check digit of those fifteen. Random digits come from draws of two bytes;
draws at or above the largest multiple of ten thousand are thrown away.
-/

namespace PaymentOrders.CaseId

def clockDigits : Nat := 11

def randomDigits : Nat := 4

/-- Draws from here on are thrown away: the largest multiple of ten thousand of sixteen bits. -/
def drawLimit : Nat := 60000

/-- The milliseconds of an instant, given in nanoseconds since 1970; zero before 1970. -/
def clockMillis (nanos : Int) : Nat :=
  (nanos.tdiv 1000000).toNat

/-- The leading digits of the milliseconds, filled up with zeros on the left. -/
def clockText (nanos : Int) : List Char :=
  (Text.paddedDecimal clockDigits (clockMillis nanos)).take clockDigits

def drawValue (high low : UInt8) : Nat :=
  high.toNat * 256 + low.toNat

/-- The first draw below the limit and the bytes behind it. -/
def draw : List UInt8 → Option (Nat × List UInt8)
  | high :: low :: rest =>
      if drawValue high low < drawLimit then some (drawValue high low, rest) else draw rest
  | _ => none

def exhausted : OrderError :=
  .resourceUnavailable "random source unavailable: entropy pool exhausted"

/-- The text of a fresh case id and the random bytes that were not taken. -/
def generateText (nanos : Int) (random : List UInt8) : Except OrderError (String × List UInt8) :=
  match draw random with
  | none => .error exhausted
  | some (sample, rest) =>
      let body := clockText nanos ++ Text.fixedDecimal randomDigits sample
      .ok (String.ofList (CheckDigit.complete body), rest)

def generate (nanos : Int) (random : List UInt8) : Except OrderError CaseId :=
  match generateText nanos random with
  | .error error => .error error
  | .ok (text, _) => (parse text).mapError .validation

end PaymentOrders.CaseId
