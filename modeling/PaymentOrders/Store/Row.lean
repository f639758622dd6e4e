import PaymentOrders.Failure
import PaymentOrders.Text.Order
/-!
# Rows

The rows of a database as they are stored: ids and timestamps are text, case ids are integers,
and nothing promises that they mean something. `ofOrder` and `ofSnapshot` write canonical rows;
`toOrder` and `toRevision` read any row and tell what is wrong with it.

A column holds values of its declared type and, where it may be left out, none. The tables are not
strict, so another program could also store other values there, which no call can read; they are
left out. Texts are compared by their bytes in UTF-8, the encoding that a new database gets; in a
database with another encoding their order would be that of other bytes.
-/

namespace PaymentOrders.Store

def readOrderId (raw : String) : Except Failure OrderId :=
  (OrderId.ofText raw).mapError fun error => ⟨[.readingOrderId raw], .fault (.orderId error)⟩

/-- Reads a stored case id. A number that is no case id is an error of the domain, whoever wrote
it. -/
def readCaseId (raw : Int) : Except Failure CaseId :=
  if raw < 0 then
    .error ⟨[.readingNegativeCaseId raw], .fault .negativeCaseId⟩
  else
    (CaseId.ofNumber raw.toNat).mapError fun report =>
      ⟨[.readingCaseId raw], .error (.validation report)⟩

def readTimestamp (raw : String) : Except Failure Timestamp :=
  (Timestamp.ofText raw).mapError fun error =>
    ⟨[.readingTimestamp raw], .fault (.timestamp error)⟩

/-- A row of the table of live orders. A row planted from outside may lack its id. -/
structure OrderRow where
  id : Option String
  caseId : Int
  orderReference : String
  action : String
  responsibleParty : String
  effectiveFrom : String
  createdTimestamp : String
  createdBy : String
  deriving DecidableEq, Repr

namespace OrderRow

def ofOrder (order : Order) : OrderRow where
  id := some order.id.toText
  caseId := order.caseId.number
  orderReference := order.orderReference
  action := order.action
  responsibleParty := order.responsibleParty
  effectiveFrom := order.effectiveFrom.toText
  createdTimestamp := order.createdTimestamp.toText
  createdBy := order.createdBy

def toOrder (row : OrderRow) : Except Failure Order := do
  match row.id with
  | none => .error (.ofFault (.nullColumn 0 "id"))
  | some raw =>
      let id ← readOrderId raw
      let caseId ← readCaseId row.caseId
      let effectiveFrom ← readTimestamp row.effectiveFrom
      let createdTimestamp ← readTimestamp row.createdTimestamp
      return {
        id, caseId, effectiveFrom, createdTimestamp
        orderReference := row.orderReference
        action := row.action
        responsibleParty := row.responsibleParty
        createdBy := row.createdBy }

/-- Whether the row has the given id, letter by letter. -/
def hasId (id : OrderId) (row : OrderRow) : Bool :=
  row.id == some id.toText

def samePair (a b : OrderRow) : Bool :=
  a.caseId == b.caseId && a.orderReference == b.orderReference

/-- Rows come by case id and then by order reference; the id, with nothing first, tells apart
what is left. -/
def le (a b : OrderRow) : Bool :=
  if a.caseId = b.caseId then
    if a.orderReference = b.orderReference then
      match a.id, b.id with
      | none, _ => true
      | some _, none => false
      | some x, some y => Text.le x.toList y.toList
    else Text.le a.orderReference.toList b.orderReference.toList
  else a.caseId < b.caseId

end OrderRow

def inOrder (rows : List OrderRow) : List OrderRow :=
  rows.mergeSort OrderRow.le

/-- A row of the trail. Any part of the snapshot may be missing. -/
structure RevisionRow where
  number : Int
  recordId : String
  changeType : String
  timestamp : String
  caseId : Option Int
  orderReference : Option String
  action : Option String
  responsibleParty : Option String
  effectiveFrom : Option String
  createdTimestamp : Option String
  createdBy : Option String
  deriving DecidableEq, Repr

namespace RevisionRow

/-- The row of a change that left an order as it is. -/
def ofSnapshot (number : Int) (change : ChangeType) (timestamp : Timestamp) (order : Order) :
    RevisionRow where
  number
  recordId := order.id.toText
  changeType := change.name
  timestamp := timestamp.toText
  caseId := some order.caseId.number
  orderReference := some order.orderReference
  action := some order.action
  responsibleParty := some order.responsibleParty
  effectiveFrom := some order.effectiveFrom.toText
  createdTimestamp := some order.createdTimestamp.toText
  createdBy := some order.createdBy

/-- The snapshot of a row, where no part of it is missing. -/
def snapshot (row : RevisionRow) (id : OrderId) : Except Failure (Option Order) :=
  match row.caseId, row.orderReference, row.action, row.responsibleParty, row.effectiveFrom,
    row.createdTimestamp, row.createdBy with
  | some rawCaseId, some orderReference, some action, some responsibleParty,
    some rawEffectiveFrom, some rawCreatedTimestamp, some createdBy => do
      let caseId ← readCaseId rawCaseId
      let effectiveFrom ← readTimestamp rawEffectiveFrom
      let createdTimestamp ← readTimestamp rawCreatedTimestamp
      return some {
        id, caseId, orderReference, action, responsibleParty, effectiveFrom, createdTimestamp,
        createdBy }
  | _, _, _, _, _, _, _ => .ok none

def toRevision (row : RevisionRow) : Except Failure Revision := do
  let recordId ← readOrderId row.recordId
  match ChangeType.ofName? row.changeType with
  | none => .error (.ofFault (.unknownChange row.changeType))
  | some changeType =>
      let snapshot ← row.snapshot recordId
      let timestamp ← readTimestamp row.timestamp
      return { number := row.number, recordId, changeType, timestamp, snapshot }

/-- Whether the row belongs to the order with the given id, letter by letter. -/
def belongsTo (id : OrderId) (row : RevisionRow) : Bool :=
  row.recordId == id.toText

end RevisionRow

end PaymentOrders.Store
