import PaymentOrders.Json.Value
import PaymentOrders.Text.Decimal
/-!
# Reading documents

A text is read from left to right. A number without fraction and exponent is an integer as long
as it fits a word of 64 bits, signed or not; any other number, the negative zero too, is
binary floating point.
-/

namespace PaymentOrders.Json

def isGap (c : Char) : Bool :=
  c = ' ' || c = '\n' || c = '\r' || c = '\t'

/-- The text behind its first blanks. -/
def skipGap (cs : List Char) : List Char :=
  cs.dropWhile isGap

def expect : List Char → List Char → Option (List Char)
  | [], cs => some cs
  | w :: word, c :: cs => if w = c then expect word cs else none
  | _ :: _, [] => none

/-- The number of four hexadecimal digits and the text behind them. -/
def readUnit : List Char → Option (Nat × List Char)
  | a :: b :: c :: d :: cs => do
      let digits ← [a, b, c, d].mapM Text.hexValue?
      return (Text.value 16 digits, cs)
  | _ => none

/-- The character that a text starts with by number: one unit, or a pair of them. -/
def readNumbered (cs : List Char) : Option (Char × List Char) := do
  let (first, cs) ← readUnit cs
  if 0xD800 ≤ first && first < 0xDC00 then
    let cs ← expect ['\\', 'u'] cs
    let (second, cs) ← readUnit cs
    if 0xDC00 ≤ second && second < 0xE000 then
      some (Char.ofNat (0x10000 + (first - 0xD800) * 0x400 + (second - 0xDC00)), cs)
    else none
  else if 0xDC00 ≤ first && first < 0xE000 then none
  else some (Char.ofNat first, cs)

/-- The character behind a backslash, other than one by number. -/
def unescape? (c : Char) : Option Char :=
  if c = '"' || c = '\\' || c = '/' then some c
  else if c = 'n' then some '\n'
  else if c = 'r' then some '\r'
  else if c = 't' then some '\t'
  else if c = 'b' then some (Char.ofNat 8)
  else if c = 'f' then some (Char.ofNat 12)
  else none

/-- The characters up to the next quote that no backslash stands before, behind those that are
read, the last one first, and what stands behind the quote. -/
def cutText (read : List Char) : List Char → Option (List Char × List Char)
  | [] => none
  | '"' :: cs => some (read.reverse, cs)
  | '\\' :: c :: cs => cutText (c :: '\\' :: read) cs
  | c :: cs => if c.toNat < 32 || c = '\\' then none else cutText (c :: read) cs

def unescape : Nat → List Char → Option (List Char)
  | 0, _ => none
  | _, [] => some []
  | fuel + 1, '\\' :: 'u' :: cs => do
      let (c, cs) ← readNumbered cs
      return c :: (← unescape fuel cs)
  | fuel + 1, '\\' :: c :: cs => do
      let c ← unescape? c
      return c :: (← unescape fuel cs)
  | fuel + 1, c :: cs => return c :: (← unescape fuel cs)

def readText (cs : List Char) : Option (String × List Char) := do
  let (written, cs) ← cutText [] cs
  return (String.ofList (← unescape (written.length + 1) written), cs)

def maxWord : Nat := 18446744073709551615

def minSigned : Nat := 9223372036854775808

/-- Digits added to a number as long as it fits a word, and how many did not. -/
def gather (n : Nat) : List Char → Nat × Nat
  | [] => (n, 0)
  | d :: ds =>
      if n * 10 + Text.digitValue d ≤ maxWord then gather (n * 10 + Text.digitValue d) ds
      else (n, ds.length + 1)

def readDigits (cs : List Char) : Option (List Char × List Char) :=
  match cs.takeWhile Char.isDigit with
  | [] => none
  | ds => some (ds, cs.dropWhile Char.isDigit)

/-- The digits of an integer, which start with a zero only if that is all. -/
def readWhole (cs : List Char) : Option (List Char × List Char) :=
  match readDigits cs with
  | some ('0' :: _ :: _, _) => none
  | read => read

/-- The digits behind a point, where there is one. -/
def readFraction : List Char → Option (Option (List Char) × List Char)
  | '.' :: cs => (readDigits cs).map fun (ds, cs) => (some ds, cs)
  | cs => some (none, cs)

def readSigned : List Char → Option (Int × List Char)
  | '-' :: cs => (readDigits cs).map fun (ds, cs) => (-(Text.decimalValue ds : Int), cs)
  | '+' :: cs => (readDigits cs).map fun (ds, cs) => ((Text.decimalValue ds : Int), cs)
  | cs => (readDigits cs).map fun (ds, cs) => ((Text.decimalValue ds : Int), cs)

def readExponent : List Char → Option (Option Int × List Char)
  | 'e' :: cs | 'E' :: cs => (readSigned cs).map fun (n, cs) => (some n, cs)
  | cs => some (none, cs)

def ofParts (negative : Bool) (whole : List Char) (fraction : Option (List Char))
    (exponent : Option Int) : Option Json := do
  let (n, dropped) := gather 0 whole
  if fraction.isNone && exponent.isNone && dropped == 0 then
    if !negative then return integer n
    if 0 < n && n ≤ minSigned then return integer (-n)
  let (m, behind) := gather n (fraction.getD [])
  let shift : Int := dropped - ((fraction.getD []).length - behind : Nat) + exponent.getD 0
  return real (← Binary64.ofDecimal? negative m shift)

def readNumber (negative : Bool) (cs : List Char) : Option (Json × List Char) := do
  let (whole, cs) ← readWhole cs
  let (fraction, cs) ← readFraction cs
  let (exponent, cs) ← readExponent cs
  return (← ofParts negative whole fraction exponent, cs)

mutual

def readValue : Nat → List Char → Option (Json × List Char)
  | 0, _ => none
  | fuel + 1, cs =>
      match skipGap cs with
      | '{' :: cs =>
          match skipGap cs with
          | '}' :: cs => some (object [], cs)
          | cs => readMembers fuel [] cs
      | '[' :: cs =>
          match skipGap cs with
          | ']' :: cs => some (array [], cs)
          | cs => readItems fuel [] cs
      | '"' :: cs => (readText cs).map fun (s, cs) => (string s, cs)
      | 'n' :: cs => (expect "ull".toList cs).map fun cs => (null, cs)
      | 't' :: cs => (expect "rue".toList cs).map fun cs => (bool true, cs)
      | 'f' :: cs => (expect "alse".toList cs).map fun cs => (bool false, cs)
      | '-' :: cs => readNumber true cs
      | cs => readNumber false cs

/-- Reads the items of an array behind those that are read, the last one first. -/
def readItems : Nat → List Json → List Char → Option (Json × List Char)
  | 0, _, _ => none
  | fuel + 1, items, cs => do
      let (item, cs) ← readValue fuel cs
      match skipGap cs with
      | ',' :: cs => readItems fuel (item :: items) cs
      | ']' :: cs => some (array (item :: items).reverse, cs)
      | _ => none

/-- Reads the members of an object behind those that are read. -/
def readMembers : Nat → List (String × Json) → List Char → Option (Json × List Char)
  | 0, _, _ => none
  | fuel + 1, members, cs => do
      let cs ← expect ['"'] (skipGap cs)
      let (name, cs) ← readText cs
      let cs ← expect [':'] (skipGap cs)
      let (value, cs) ← readValue fuel cs
      match skipGap cs with
      | ',' :: cs => readMembers fuel (insert name value members) cs
      | '}' :: cs => some (object (insert name value members), cs)
      | _ => none

end

def parse (s : String) : Option Json :=
  match readValue (2 * s.length + 2) s.toList with
  | some (value, cs) => if skipGap cs = [] then some value else none
  | none => none

end PaymentOrders.Json
