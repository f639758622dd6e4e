import PaymentOrders.CaseId
import PaymentOrders.OrderId
import PaymentOrders.Timestamp
/-!
# Orders

A payment order, the fields of it that a caller may choose, and the revisions that its trail
is made of.
-/

namespace PaymentOrders

structure OrderFields where
  effectiveFrom : Timestamp
  caseId : CaseId
  action : String
  responsibleParty : String
  orderReference : String
  deriving DecidableEq

/-- The issues of the texts of an order that must not be blank, in the order of the fields. -/
def requiredTexts (action responsibleParty orderReference : String) : Report :=
  Issue.ofBlanks
    [("action", action), ("responsible_party", responsibleParty),
      ("order_reference", orderReference)]

/-- Refuses fields with a blank text, naming all of them. -/
def OrderFields.validate (fields : OrderFields) : Except OrderError Unit :=
  match requiredTexts fields.action fields.responsibleParty fields.orderReference with
  | [] => .ok ()
  | report => .error (.validation report)

structure Order where
  id : OrderId
  caseId : CaseId
  orderReference : String
  action : String
  responsibleParty : String
  effectiveFrom : Timestamp
  createdTimestamp : Timestamp
  createdBy : String
  deriving DecidableEq

namespace Order

def fields (order : Order) : OrderFields where
  effectiveFrom := order.effectiveFrom
  caseId := order.caseId
  action := order.action
  responsibleParty := order.responsibleParty
  orderReference := order.orderReference

/-- The order with other fields; who created it, when and under which id stays. -/
def apply (order : Order) (fields : OrderFields) : Order :=
  { order with
    effectiveFrom := fields.effectiveFrom
    caseId := fields.caseId
    action := fields.action
    responsibleParty := fields.responsibleParty
    orderReference := fields.orderReference }

def create (id : OrderId) (fields : OrderFields) (created : Timestamp) (createdBy : String) :
    Order where
  id
  caseId := fields.caseId
  orderReference := fields.orderReference
  action := fields.action
  responsibleParty := fields.responsibleParty
  effectiveFrom := fields.effectiveFrom
  createdTimestamp := created
  createdBy

@[simp] theorem fields_apply (order : Order) (fields : OrderFields) :
    (order.apply fields).fields = fields := rfl

@[simp] theorem apply_fields (order : Order) : order.apply order.fields = order := rfl

@[simp] theorem fields_create (id : OrderId) (fields : OrderFields) (created : Timestamp)
    (createdBy : String) : (create id fields created createdBy).fields = fields := rfl

end Order

inductive ChangeType where
  | created
  | modified
  | deleted
  deriving DecidableEq, Repr

namespace ChangeType

def name : ChangeType → String
  | created => "created"
  | modified => "modified"
  | deleted => "deleted"

def ofName? (name : String) : Option ChangeType :=
  if name = "created" then some created
  else if name = "modified" then some modified
  else if name = "deleted" then some deleted
  else none

@[simp] theorem ofName?_name (change : ChangeType) : ofName? change.name = some change := by
  cases change <;> rfl

theorem name_of_ofName? {text : String} {change : ChangeType} (h : ofName? text = some change) :
    change.name = text := by
  unfold ofName? at h
  split at h
  next htext => exact Option.some.inj h ▸ htext.symm
  next =>
    split at h
    next htext => exact Option.some.inj h ▸ htext.symm
    next =>
      split at h
      next htext => exact Option.some.inj h ▸ htext.symm
      next => cases h

end ChangeType

/-- One entry of the trail of an order: the order as the change left it, where it is known. -/
structure Revision where
  number : Int
  recordId : OrderId
  changeType : ChangeType
  timestamp : Timestamp
  snapshot : Option Order
  deriving DecidableEq

end PaymentOrders
