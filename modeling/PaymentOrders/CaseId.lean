import PaymentOrders.CheckDigit
import PaymentOrders.OrderError
/-!
# Case ids

The business key of a case: sixteen decimal digits, the last of which is the check digit of
the others. A case id is stored and sent as a number and shown with all its digits.
-/

namespace PaymentOrders

/-- The number of numbers with sixteen decimal digits at most. -/
def caseNumberCount : Nat := 10000000000000000

/-- A number that is a case id: its sixteen decimal digits carry their check digit. -/
def isCaseNumber (n : Nat) : Bool :=
  n < caseNumberCount && CheckDigit.verifies (Text.fixedDecimal caseIdLength n)

structure CaseId where
  number : Nat
  valid : isCaseNumber number = true
  deriving DecidableEq

namespace CaseId

def toText (id : CaseId) : String :=
  String.ofList (Text.fixedDecimal caseIdLength id.number)

instance : ToString CaseId := ⟨toText⟩

/-- The issues of a text that is to be a case id. Length and check digit are judged apart, so
one text can have both issues; a blank text has none. -/
def issues (field value : String) : Report :=
  if Text.isBlank value then
    []
  else
    (if value.length = caseIdLength then [] else [Issue.caseIdLength field value]) ++
      (if value.toList.all Char.isDigit && CheckDigit.verifies value.toList then []
        else [Issue.caseIdChecksum field value])

/-- Judges many texts; the issues of all of them make one error. -/
def validateAll (field : String) (values : List String) : Except OrderError Unit :=
  match values.flatMap (issues field) with
  | [] => .ok ()
  | report => .error (.validation report)

/-- Reads the case id of a request's field, or tells everything that is wrong with it. -/
def parseField (field value : String) : Except Report CaseId :=
  match Issue.ofBlank field value with
  | some issue => .error [issue]
  | none =>
      match issues field value with
      | [] =>
          if valid : isCaseNumber (Text.decimalValue value.toList) = true then
            .ok ⟨Text.decimalValue value.toList, valid⟩
          else
            .error [.caseIdChecksum field value]
      | report => .error report

def defaultField : String := "case_id"

def parse (value : String) : Except Report CaseId :=
  parseField defaultField value

/-- The case id of a number, which is judged by its decimal text of at least sixteen digits. -/
def ofNumber (n : Nat) : Except Report CaseId :=
  parse (String.ofList (Text.paddedDecimal caseIdLength n))

end CaseId

end PaymentOrders
