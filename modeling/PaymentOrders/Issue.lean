import PaymentOrders.Text.Blank
/-!
# Issues

What can be wrong with the values of a request. A report lists the issues of one request in
the order in which they were found.
-/

namespace PaymentOrders

/-- The number of characters of a case id, check digit included. -/
def caseIdLength : Nat := 16

inductive Issue where
  | required (field : String)
  | caseIdLength (field value : String)
  | caseIdChecksum (field value : String)
  | malformedId (field value : String)
  | invalidPagination (detail : String)
  deriving DecidableEq, Repr

namespace Issue

/-- The field that the issue is about; a page has no field. -/
def field? : Issue → Option String
  | required field | caseIdLength field _ | caseIdChecksum field _ | malformedId field _ =>
      some field
  | invalidPagination _ => none

def value? : Issue → Option String
  | caseIdLength _ value | caseIdChecksum _ value | malformedId _ value => some value
  | required _ | invalidPagination _ => none

def text : Issue → String
  | required field => s!"{field}: value is required"
  | caseIdLength field value =>
      s!"{field}: Case ID has to be {PaymentOrders.caseIdLength} digits long ({value})"
  | caseIdChecksum field value =>
      let length := PaymentOrders.caseIdLength
      s!"{field}: Case ID has to be a valid {length}-digit Luhn number ({value})"
  | malformedId field value => s!"{field}: malformed id ({value})"
  | invalidPagination detail => s!"pagination: {detail}"

def ofBlank (field value : String) : Option Issue :=
  if Text.isBlank value then some (required field) else none

def ofBlanks (fields : List (String × String)) : List Issue :=
  fields.filterMap fun (field, value) => ofBlank field value

end Issue

/-- The issues of one request, in the order in which they were found. -/
abbrev Report := List Issue

namespace Report

/-- The issues of a value that was not read; a value that was read has none. -/
def ofRead {α : Type} : Except Report α → Report
  | .ok _ => []
  | .error report => report

def text (report : Report) : String :=
  "; ".intercalate (report.map Issue.text)

def invalidValues (report : Report) : List String :=
  (report.filterMap Issue.value?).eraseDups

end Report

end PaymentOrders
