import PaymentOrders.Store.Constraint
import PaymentOrders.Store.Schema
/-!
# Integrity

What can be told about a database without knowing its history: whether its rows keep to the
rules of their tables, and whether orders and trail belong together.
-/

namespace PaymentOrders.Store

structure IntegrityReport where
  quickCheckOk : Bool
  quickCheckMessage : String
  /-- The live orders whose trail does not tell that they were created. -/
  ordersWithoutCreatedRevision : List String
  /-- The records in the trail that are not live. -/
  orphanedRevisionRecordIds : List String
  schemaStatus : SchemaStatus
  deriving DecidableEq, Repr

/-- Whether nothing is wrong. The schema version does not count. -/
def IntegrityReport.isConsistent (report : IntegrityReport) : Bool :=
  report.quickCheckOk && report.ordersWithoutCreatedRevision.isEmpty &&
    report.orphanedRevisionRecordIds.isEmpty

def quickCheckPassed : String := "ok"

def quickCheckFailed (table : TableName) : String :=
  s!"CHECK constraint failed in {TableName.text table}"

/-- Whether some row breaks the rules of its table. -/
def Database.violates (db : Database) : TableName → Bool
  | .versions => false
  | .orders => (db.orders.getD []).any fun row => !row.satisfiesCheck
  | .trail => (db.trail.getD .empty).rows.any fun row => !row.satisfiesCheck

def Database.newestFirst (db : Database) : List TableName :=
  if db.ordersNewer then [.orders, .trail] else [.trail, .orders]

/-- The first thing that the check of rows finds; it looks at the newest table first. -/
def quickCheck (db : Database) : String :=
  match db.newestFirst.find? db.violates with
  | some table => quickCheckFailed table
  | none => quickCheckPassed

def sortTexts (texts : List String) : List String :=
  texts.mergeSort fun a b => Text.le a.toList b.toList

/-- Whether a row tells that the record with an id was created. -/
def RevisionRow.tellsCreation (recordId : String) (row : RevisionRow) : Bool :=
  row.recordId == recordId && row.changeType == ChangeType.name .created

/-- The ids of the live orders whose creation the trail does not tell. An order without an id
cannot be listed. -/
def uncreatedIds (orders : List OrderRow) (trail : Trail) : Except Failure (List String) :=
  if orders.any fun order => order.id.isNone then
    .error (.ofFault (.nullColumn 0 "id"))
  else
    .ok <| sortTexts <| (orders.filterMap OrderRow.id).filter fun id =>
      !trail.rows.any (RevisionRow.tellsCreation id)

/-- The records of the trail that are not live. -/
def orphanedIds (orders : List OrderRow) (trail : Trail) : List String :=
  sortTexts <| (trail.rows.map RevisionRow.recordId).eraseDups.filter fun recordId =>
    !orders.any fun order => order.id == some recordId

def integrityCheck : Session IntegrityReport := do
  let message ← Session.read fun db => .ok (quickCheck db)
  let uncreated ← Session.within .checkingCreated <|
    Session.read fun db => do uncreatedIds (← db.orderRows) (← db.theTrail)
  let orphaned ← Session.within .checkingOrphans <|
    Session.read fun db => do return orphanedIds (← db.orderRows) (← db.theTrail)
  let status ← schemaStatus
  return {
    quickCheckOk := message == quickCheckPassed
    quickCheckMessage := message
    ordersWithoutCreatedRevision := uncreated
    orphanedRevisionRecordIds := orphaned
    schemaStatus := status }

end PaymentOrders.Store
