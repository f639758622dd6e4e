import PaymentOrders.Order
/-!
# Requests

What callers ask for, as they write it: keys are texts, and nothing is judged yet. `fields` and
`read` judge a request as a whole and tell everything that is wrong with it.
-/

namespace PaymentOrders

structure OrderRequest where
  effectiveFrom : Option Timestamp
  caseId : String
  action : String
  responsibleParty : String
  orderReference : String
  deriving DecidableEq

namespace OrderRequest

/-- Everything that is wrong with the fields of a request, in the order of the fields. -/
def issues (request : OrderRequest) : Report :=
  (if request.effectiveFrom.isNone then [Issue.required "effective_from"] else []) ++
    Report.ofRead (CaseId.parseField "case_id" request.caseId) ++
    requiredTexts request.action request.responsibleParty request.orderReference

def fields? (request : OrderRequest) : Option OrderFields :=
  match request.effectiveFrom, CaseId.parseField "case_id" request.caseId with
  | some effectiveFrom, .ok caseId =>
      some {
        effectiveFrom, caseId
        action := request.action
        responsibleParty := request.responsibleParty
        orderReference := request.orderReference }
  | _, _ => none

def read (request : OrderRequest) : Except OrderError OrderFields :=
  match request.fields?, request.issues with
  | some fields, [] => .ok fields
  | _, report => .error (.validation report)

end OrderRequest

structure UpdateRequest where
  id : String
  order : OrderRequest
  deriving DecidableEq

namespace UpdateRequest

/-- Everything that is wrong with a request, its id first. -/
def issues (request : UpdateRequest) : Report :=
  Report.ofRead (OrderId.parseField "id" request.id) ++ request.order.issues

def read (request : UpdateRequest) : Except OrderError (OrderId × OrderFields) :=
  match OrderId.parseField "id" request.id, request.order.fields?, request.issues with
  | .ok id, some fields, [] => .ok (id, fields)
  | _, _, report => .error (.validation report)

end UpdateRequest

/-- The keys of the orders to find, and which page of them to tell. -/
structure QueryRequest where
  ids : List String
  caseIds : List String
  page : Option UInt32
  size : Option UInt32
  deriving DecidableEq

end PaymentOrders
