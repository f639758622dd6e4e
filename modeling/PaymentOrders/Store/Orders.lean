import PaymentOrders.Page
import PaymentOrders.Store.Trail
/-!
# Live orders

Creating, changing and finding orders. A change of an order and the revision that records it
are one transaction: either both are done or none.
-/

namespace PaymentOrders.Store

/-- What the calls that change orders are written over, so that whoever wants to see more of them
than the database afterwards, such as the numbers that they give out, runs the same calls. -/
structure Engine (m : Type → Type) where
  statement {α : Type} : Session α → m α
  append : ChangeType → Order → Timestamp → m Int
  transaction {α : Type} : m α → m α

/-- The engine of the sessions themselves. -/
abbrev Session.engine : Engine Session where
  statement := fun session => session
  append := appendRevision
  transaction := Session.transaction

/-- No two orders share a case id and an order reference. -/
def pairTaken (caseId : CaseId) (orderReference : String) : OrderError :=
  let taken := "a case payment order already exists for"
  .conflict s!"{taken} case_id {CaseId.toText caseId} and order_reference {orderReference}"

/-- The failure of a statement that gives an order its case id and order reference: a conflict if
another order has them, else a fault of what was being done. -/
def pairFailure (fields : OrderFields) (context : Context) (failure : Failure) : Failure :=
  match failure.cause with
  | .fault (.rejectedRow .orders .duplicatePair) =>
      .ofError (pairTaken fields.caseId fields.orderReference)
  | _ => failure.within context

namespace OrderRow

/-- The row with other fields; the id and who created it, and when, stay letter by letter. -/
def withFields (row : OrderRow) (fields : OrderFields) : OrderRow :=
  { row with
    caseId := fields.caseId.number
    orderReference := fields.orderReference
    action := fields.action
    responsibleParty := fields.responsibleParty
    effectiveFrom := fields.effectiveFrom.toText }

def isSelected (filter : OrderFilter) (row : OrderRow) : Bool :=
  match filter with
  | .ids keys => keys.any fun id => row.hasId id
  | .caseIds keys => keys.any fun caseId => row.caseId == (caseId.number : Int)

end OrderRow

def insertOrder (order : Order) : Session Unit :=
  Session.mapFailure (pairFailure order.fields .insertingOrder) <|
    Session.write fun db => do
      let rows ← db.orderRows
      let grown ← insertOrderRow true (.ofOrder order) rows
      return ((), { db with orders := some grown })

def findRow (id : OrderId) : Session (Option OrderRow) :=
  Session.read fun db => do
    let rows ← db.orderRows
    return rows.find? (OrderRow.hasId id)

def replaceFields (row : OrderRow) (fields : OrderFields) : Session Unit :=
  Session.mapFailure (pairFailure fields .updatingOrder) <|
    Session.write fun db => do
      let rows ← db.orderRows
      let changed ← replaceOrderRow (row.withFields fields) rows
      return ((), { db with orders := some changed })

/-- Who creates an order must have a name. -/
def namelessCreator : OrderError :=
  .validation [.required "created_by"]

section Engine

variable {m : Type → Type} [Monad m]

def Engine.createOrder (engine : Engine m) (fields : OrderFields) (createdBy : String)
    (fresh : OrderId) (clock : Clock) : m Order := do
  engine.statement (Session.demand fields.validate)
  engine.statement
    (Session.demand (if Text.isBlank createdBy then .error namelessCreator else .ok ()))
  let order := Order.create fresh fields (clock 0) createdBy
  engine.transaction do
    engine.statement (insertOrder order)
    let _ ← engine.append .created order (clock 1)
    return order

def Engine.updateOrder (engine : Engine m) (id : OrderId) (fields : OrderFields)
    (clock : Clock) : m Order := do
  engine.statement (Session.demand fields.validate)
  engine.transaction do
    match ← engine.statement (findRow id) with
    | none => engine.statement (Session.fail (.ofError (.notFound .id id.toText)))
    | some row =>
        let order ← engine.statement (Session.read fun _ => row.toOrder)
        engine.statement (replaceFields row fields)
        let _ ← engine.append .modified (order.apply fields) (clock 0)
        return order.apply fields

end Engine

/-- Creates an order under a fresh id and records that it was created. -/
def createOrder (fields : OrderFields) (createdBy : String) (fresh : OrderId) (clock : Clock) :
    Session Order :=
  Session.engine.createOrder fields createdBy fresh clock

/-- Gives a live order other fields and records that it was modified. -/
def updateOrder (id : OrderId) (fields : OrderFields) (clock : Clock) : Session Order :=
  Session.engine.updateOrder id fields clock

def getOrder (id : OrderId) : Session (Option Order) := do
  match ← findRow id with
  | none => return none
  | some row => Session.read fun _ => row.toOrder.map some

def selectedRows (filter : OrderFilter) (db : Database) : Except Failure (List OrderRow) := do
  let rows ← db.orderRows
  return inOrder (rows.filter (OrderRow.isSelected filter))

/-- One page of the orders that a filter selects. Only the rows of the page are read. -/
def queryOrders (filter : OrderFilter) (request : PageRequest) : Session (Page Order) := do
  let offset ← Session.demand request.checkedOffset
  if filter.isEmpty then
    return Page.ofTotal [] request 0
  else
    let total ← Session.within .countingOrders <|
      Session.read fun db => return (← selectedRows filter db).length
    let content ← Session.read fun db => do
      let rows ← selectedRows filter db
      ((rows.drop offset).take request.size.toNat).mapM OrderRow.toOrder
    return Page.ofTotal content request total.toUInt64

end PaymentOrders.Store
