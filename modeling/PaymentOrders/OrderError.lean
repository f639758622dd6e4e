import PaymentOrders.Issue
/-!
# Domain errors

The ways in which a request can fail for a reason that its caller understands, and the coarse
kind that a transport maps to a status.
-/

namespace PaymentOrders

inductive ErrorKind where
  | validation
  | conflict
  | notFound
  | fatal
  deriving DecidableEq, Repr

def ErrorKind.name : ErrorKind → String
  | validation => "validation"
  | conflict => "conflict"
  | notFound => "not_found"
  | fatal => "fatal"

/-- The kind of key that a lookup or a delete went by. -/
inductive Referent where
  | id
  | caseId
  deriving DecidableEq, Repr

def Referent.name : Referent → String
  | id => "id"
  | caseId => "case_id"

def Referent.text : Referent → String
  | id => "id"
  | caseId => "Case ID"

inductive OrderError where
  /-- Some values of the request are wrong. -/
  | validation (report : Report)
  /-- The two lists of keys do not select by exactly one kind. -/
  | filter (detail : String)
  /-- The change would break a rule between orders. -/
  | conflict (detail : String)
  /-- No live order answers to a key. -/
  | notFound (referent : Referent) (detail : String)
  /-- Something outside the database is missing. -/
  | resourceUnavailable (detail : String)
  deriving DecidableEq, Repr

namespace OrderError

def kind : OrderError → ErrorKind
  | validation _ | filter _ => .validation
  | conflict _ => .conflict
  | notFound _ _ => .notFound
  | resourceUnavailable _ => .fatal

def text : OrderError → String
  | validation report => s!"validation error: {Report.text report}"
  | filter detail => s!"filter error: {detail}"
  | conflict detail => s!"conflict: {detail}"
  | notFound referent detail =>
      s!"Case Payment Order does not exist for {Referent.text referent}: {detail}"
  | resourceUnavailable detail => s!"resource unavailable: {detail}"

def issues : OrderError → List Issue
  | validation report => report
  | _ => []

end OrderError

end PaymentOrders
