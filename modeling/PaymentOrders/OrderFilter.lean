import PaymentOrders.CaseId
import PaymentOrders.OrderId
import PaymentOrders.Sorted
/-!
# Filters

A filter selects orders by exactly one kind of key. A resolved filter holds each key once, in
ascending order.
-/

namespace PaymentOrders

/-- The keys that orders are selected by. -/
inductive OrderFilter where
  | ids (keys : List OrderId)
  | caseIds (keys : List CaseId)
  deriving DecidableEq

namespace OrderFilter

def referent : OrderFilter → Referent
  | ids _ => .id
  | caseIds _ => .caseId

def size : OrderFilter → Nat
  | ids keys => keys.length
  | caseIds keys => keys.length

def isEmpty (filter : OrderFilter) : Bool :=
  filter.size == 0

/-- Reads all texts, or gives the issues of all of them. -/
def readAll {α : Type} (read : String → Except Report α) (texts : List String) :
    Except Report (List α) :=
  match texts.flatMap (Report.ofRead ∘ read) with
  | [] => .ok (texts.filterMap fun text => (read text).toOption)
  | report => .error report

def bothSupplied : OrderError :=
  .filter "ids and case_ids are mutually exclusive; supply only one"

def noneSupplied : OrderError :=
  .filter "one of ids or case_ids must be supplied"

/-- The filter for the texts of keys. That exactly one list holds something is judged before any
text is read; all texts that cannot be read make one error. -/
def resolve (ids caseIds : List String) : Except OrderError OrderFilter :=
  match ids, caseIds with
  | _ :: _, _ :: _ => .error bothSupplied
  | [], [] => .error noneSupplied
  | _ :: _, [] =>
      match readAll (OrderId.parseField "ids") ids with
      | .ok keys => .ok (.ids (Sorted.ofKeys OrderId.value keys))
      | .error report => .error (.validation report)
  | [], _ :: _ =>
      match readAll (CaseId.parseField "case_ids") caseIds with
      | .ok keys => .ok (.caseIds (Sorted.ofKeys CaseId.number keys))
      | .error report => .error (.validation report)

end OrderFilter

end PaymentOrders
