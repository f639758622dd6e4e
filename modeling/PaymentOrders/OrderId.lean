import PaymentOrders.Issue
import PaymentOrders.Text.Decimal
/-!
# Order ids

The key that the store gives to an order: a number of 128 bits, written with 26 symbols of
five bits each. The first symbol has room for more bits than the number, so it counts modulo
eight when it is read.
-/

namespace PaymentOrders

/-- The number of order ids: two to the power of 128. -/
def orderIdCount : Nat := 340282366920938463463374607431768211456

structure OrderId where
  value : Nat
  value_lt : value < orderIdCount
  deriving DecidableEq

namespace OrderId

inductive TextError where
  | invalidLength
  | invalidCharacter
  deriving DecidableEq, Repr

def TextError.text : TextError → String
  | invalidLength => "invalid length"
  | invalidCharacter => "invalid character"

/-- The 32 symbols in the order of their values: no `I`, `L`, `O` or `U`. -/
def alphabet : List Char :=
  "0123456789ABCDEFGHJKMNPQRSTVWXYZ".toList

def textLength : Nat := 26

def symbolValue? (c : Char) : Option Nat :=
  alphabet.idxOf? c.toUpper

/-- The id with the lowest 128 bits of a number. -/
def ofNat (n : Nat) : OrderId :=
  ⟨n % orderIdCount, Nat.mod_lt _ (by decide)⟩

/-- Reads an id: 26 bytes, every one of them a symbol. -/
def ofText (s : String) : Except TextError OrderId :=
  if s.utf8ByteSize = textLength then
    match s.toList.mapM symbolValue? with
    | some ds => .ok (ofNat (Text.value 32 ds))
    | none => .error .invalidCharacter
  else
    .error .invalidLength

def symbol (d : Nat) : Char :=
  alphabet.getD d '0'

/-- Writes an id in upper case. -/
def toText (id : OrderId) : String :=
  String.ofList ((Text.digits 32 textLength id.value).map symbol)

instance : ToString OrderId := ⟨toText⟩

/-- Reads an id that may stand between white space. -/
def parse (s : String) : Option OrderId :=
  (ofText (String.ofList (Text.trim s.toList))).toOption

/-- Reads the id of a request's field, or tells what is wrong with it. -/
def parseField (field value : String) : Except Report OrderId :=
  match Issue.ofBlank field value with
  | some issue => .error [issue]
  | none =>
      match parse value with
      | some id => .ok id
      | none => .error [.malformedId field value]

end OrderId

end PaymentOrders
