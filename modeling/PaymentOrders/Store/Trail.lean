import PaymentOrders.Store.Constraint
/-!
# The trail of an order

Every change of an order appends one revision, which holds the order as the change left it.
Revisions are never changed; they are removed only together, all revisions of an order at once,
when the order itself is deleted.
-/

namespace PaymentOrders.Store

namespace RevisionRow

def belongsToAny (ids : List OrderId) (row : RevisionRow) : Bool :=
  ids.any fun id => row.belongsTo id

/-- Whether the row shows its order under one of some case ids. -/
def showsAny (caseIds : List CaseId) (row : RevisionRow) : Bool :=
  caseIds.any fun caseId => row.caseId == some (caseId.number : Int)

end RevisionRow

namespace Trail

def rowsOf (trail : Trail) (id : OrderId) : List RevisionRow :=
  trail.inOrder.filter (RevisionRow.belongsTo id)

/-- The records that any revision shows under one of some case ids. -/
def carriers (trail : Trail) (caseIds : List CaseId) : List String :=
  (trail.rows.filter (RevisionRow.showsAny caseIds)).map RevisionRow.recordId

/-- Removes the rows with a property; the counter stays. -/
def purge (trail : Trail) (gone : RevisionRow → Bool) : Trail :=
  { trail with rows := trail.rows.filter fun row => !gone row }

end Trail

/-- Whether a record is known not to be live. An order without an id could be any record, so
beside it nothing is known. -/
def isGone (orders : List OrderRow) (recordId : String) : Bool :=
  orders.all fun order => order.id.isSome && order.id != some recordId

def appendRevision (change : ChangeType) (order : Order) (time : Timestamp) : Session Int :=
  Session.within (.appendingRevision change order.id) <|
    Session.write fun db => do
      let trail ← db.theTrail
      let number ← trail.nextNumber
      let grown ← trail.insert true (.ofSnapshot number change time order)
      return (number, { db with trail := some grown })

def revisionsOf (id : OrderId) : Session (List Revision) :=
  Session.read fun db => do
    let trail ← db.theTrail
    (trail.rowsOf id).mapM RevisionRow.toRevision

/-- Removes rows of the trail and tells how many. -/
def purgeTrail (gone : Database → Trail → RevisionRow → Bool) : Session Nat :=
  Session.write fun db => do
    let trail ← db.theTrail
    return (trail.rows.countP (gone db trail),
      { db with trail := some (trail.purge (gone db trail)) })

def purgeRecords (ids : List OrderId) : Session Nat :=
  Session.within .purgingByRecord <|
    purgeTrail fun _ _ row => row.belongsToAny ids

/-- Removes all revisions of the records that ever carried one of some case ids and are not
live any more. A live order that moved away from a case id keeps its revisions. -/
def purgeCases (caseIds : List CaseId) : Session Nat :=
  Session.within .purgingByCase <|
    purgeTrail fun db trail row =>
      (trail.carriers caseIds).contains row.recordId && isGone (db.orders.getD []) row.recordId

end PaymentOrders.Store
