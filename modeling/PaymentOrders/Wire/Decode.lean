import PaymentOrders.Json.Value
import PaymentOrders.OrderId
import PaymentOrders.Text.Shown
import PaymentOrders.Timestamp.Text
/-!
# Reading values from documents

What can be wrong with a document that is to be a value of some type, and the class of types
that have a form on the wire.
-/

namespace PaymentOrders.Wire

inductive DecodeError where
  /-- Another kind of value was found than was expected. -/
  | kind (found expected : String)
  /-- An integer does not fit the type that was expected. -/
  | range (found : Int) (expected : String)
  /-- A variant is given by an object with more or less than one member. -/
  | notOneKey
  /-- A member that must be there is not. -/
  | missing (name : String)
  /-- A name is none of those that a type knows. -/
  | variant (found : String) (known : List String)
  /-- An array has too few or too many items. -/
  | length (found : Nat) (expected : String)
  | orderId (error : OrderId.TextError)
  | timestamp (error : Timestamp.TextError)
  | caseId (report : Report)
  deriving DecidableEq, Repr

def marked (name : String) : String :=
  "\x60" ++ name ++ "\x60"

def listed (names : List String) : String :=
  ", ".intercalate (names.map marked)

/-- The names that a type knows, in words. -/
def expectedNames : List String → String
  | [a, b] => s!"{marked a} or {marked b}"
  | names => s!"one of {listed names}"

def DecodeError.text : DecodeError → String
  | kind found expected => s!"invalid type: {found}, expected {expected}"
  | range found expected =>
      s!"invalid value: integer {marked (toString found)}, expected {expected}"
  | notOneKey => "invalid value: map, expected map with a single key"
  | missing name => s!"missing field {marked name}"
  | variant found known =>
      s!"unknown variant {marked found}, expected {expectedNames known}"
  | length found expected => s!"invalid length {found}, expected {expected}"
  | orderId error => OrderId.TextError.text error
  | timestamp error => Timestamp.TextError.text error
  | caseId report => s!"validation error: {Report.text report}"

def describe : Json → String
  | .null => "null"
  | .bool b => s!"boolean {marked (toString b)}"
  | .integer n => s!"integer {marked (toString n)}"
  | .real x => s!"floating point {marked (Json.Binary64.toText x)}"
  | .string s => s!"string {Text.quoted s}"
  | .array _ => "sequence"
  | .object _ => "map"

/-- A document is not of the kind that was expected. -/
def wrongKind {α : Type} (found : Json) (expected : String) : Except DecodeError α :=
  .error (.kind (describe found) expected)

end PaymentOrders.Wire

namespace PaymentOrders

/-- The types that have a form on the wire. -/
class Wire (α : Type) where
  encode : α → Json
  decode : Json → Except Wire.DecodeError α

end PaymentOrders

namespace PaymentOrders.Wire

def decodeText : Json → Except DecodeError String
  | .string s => .ok s
  | found => wrongKind found "a string"

def decodeInteger (least greatest : Int) (expected : String) : Json → Except DecodeError Int
  | .integer n => if least ≤ n ∧ n ≤ greatest then .ok n else .error (.range n expected)
  | found => wrongKind found expected

/-- Reads an unsigned number up to a limit. -/
def decodeNatural (greatest : Nat) (expected : String) (found : Json) : Except DecodeError Nat :=
  (decodeInteger 0 greatest expected found).map Int.toNat

def decodeItems {α : Type} (item : Json → Except DecodeError α) :
    Json → Except DecodeError (List α)
  | .array items => items.mapM item
  | found => wrongKind found "a sequence"

def decodeOption {α : Type} (value : Json → Except DecodeError α) :
    Json → Except DecodeError (Option α)
  | .null => .ok none
  | found => (value found).map some

def decodeVariant {α : Type} (known : List String) (ofName? : String → Option α) :
    Json → Except DecodeError α
  | .string name =>
      match ofName? name with
      | some x => .ok x
      | none => .error (.variant name known)
  | .object [(name, value)] =>
      match ofName? name, value with
      | some x, .null => .ok x
      | some _, found => wrongKind found "unit"
      | none, _ => .error (.variant name known)
  | .object _ => .error .notOneKey
  | found => wrongKind found "string or map"

def maxWord32 : Nat := 4294967295

def maxWord64 : Nat := 18446744073709551615

def minSigned64 : Int := -9223372036854775808

def maxSigned64 : Int := 9223372036854775807

instance : Wire String where
  encode := .string
  decode := decodeText

instance : Wire Bool where
  encode := .bool
  decode
    | .bool b => .ok b
    | found => wrongKind found "a boolean"

instance : Wire UInt32 where
  encode n := .integer n.toNat
  decode found := (decodeNatural maxWord32 "u32" found).map Nat.toUInt32

instance : Wire UInt64 where
  encode n := .integer n.toNat
  decode found := (decodeNatural maxWord64 "u64" found).map Nat.toUInt64

/-- Counts are numbers of one word. -/
instance : Wire Nat where
  encode n := .integer n
  decode := decodeNatural maxWord64 "usize"

instance : Wire Int where
  encode := .integer
  decode := decodeInteger minSigned64 maxSigned64 "i64"

instance {α : Type} [Wire α] : Wire (Option α) where
  encode
    | some x => encode x
    | none => .null
  decode := decodeOption decode

instance {α : Type} [Wire α] : Wire (List α) where
  encode xs := .array (xs.map encode)
  decode := decodeItems decode

instance : Wire OrderId where
  encode id := .string id.toText
  decode found := do
    let text ← decodeText found
    (OrderId.ofText text).mapError .orderId

def expectedTimestamp : String :=
  "an RFC3339-formatted " ++ marked "OffsetDateTime"

instance : Wire Timestamp where
  encode t := .string t.toText
  decode
    | .string text => (Timestamp.ofText text).mapError .timestamp
    | found => wrongKind found expectedTimestamp

end PaymentOrders.Wire
