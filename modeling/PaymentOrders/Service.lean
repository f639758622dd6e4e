import PaymentOrders.CaseId.Generate
import PaymentOrders.Disk.Call
import PaymentOrders.Service.Request
import PaymentOrders.Service.Result
import PaymentOrders.Store.Deletion
import PaymentOrders.Store.Integrity
/-!
# The service

The calls that callers make. Each opens the database at a path anew; those that work on orders
bring it to the current schema version first. What a call takes from outside (the caller's
name, fresh ids, readings of the clock, chance) it is given.
-/

namespace PaymentOrders.Service

def contractVersion : String := "api.v1"

/-- Runs a session on the database at a path, at the current schema version. -/
def onMigrated {α : Type} (path : String) (session : Store.Session α) : Call α :=
  Call.onDatabase path do
    Store.migrate
    session

def schemaStatus (path : String) : Call Store.SchemaStatus :=
  Call.onDatabase path Store.schemaStatus

/-- Brings the database to the current schema version, or tells what that would do. -/
def migrate (path : String) (dryRun : Bool) : Call MigrateResult :=
  Call.onDatabase path do
    let before ← Store.schemaStatus
    if dryRun then
      return .planned before
    else
      Store.migrate
      let after ← Store.schemaStatus
      return .done before after

abbrev Identity := Except Failure String

def callerName (identity : Identity) : Call String :=
  match identity with
  | .ok name => return name
  | .error failure => Call.fail failure

def create (path : String) (request : OrderRequest) (identity : Identity) (fresh : OrderId)
    (clock : Store.Clock) : Call Order := do
  let fields ← Call.demand request.read
  let createdBy ← callerName identity
  onMigrated path (Store.createOrder fields createdBy fresh clock)

def update (path : String) (request : UpdateRequest) (clock : Store.Clock) : Call Order := do
  let (id, fields) ← Call.demand request.read
  onMigrated path (Store.updateOrder id fields clock)

def readId (text : String) : Except OrderError OrderId :=
  (OrderId.parseField "id" text).mapError .validation

def unknownId (id : OrderId) : Failure :=
  .ofError (.notFound .id id.toText)

def get (path : String) (id : String) : Call Order := do
  let id ← Call.demand (readId id)
  match ← onMigrated path (Store.getOrder id) with
  | some order => return order
  | none => Call.fail (unknownId id)

def history (path : String) (id : String) : Call (List Revision) := do
  let id ← Call.demand (readId id)
  match ← onMigrated path (Store.revisionsOf id) with
  | [] => Call.fail (unknownId id)
  | revisions => return revisions

def query (path : String) (request : QueryRequest) : Call (Page Order) := do
  let filter ← Call.demand (OrderFilter.resolve request.ids request.caseIds)
  let page ← Call.demand <|
    PageRequest.make (request.page.getD 0) (request.size.getD PageRequest.defaultSize)
  onMigrated path (Store.queryOrders filter page)

/-- Deletes the orders that a request selects, and their trail. The request is judged with the
database at hand. -/
def delete (path : String) (request : Store.DeleteRequest) (clock : Store.Clock) :
    Call Store.DeletionSummary :=
  onMigrated path (Store.deleteOrders request clock)

def generateCaseId (nanos : Int) (random : List UInt8) : Call CaseId :=
  Call.demand (CaseId.generate nanos random)

def integrityCheck (path : String) : Call Store.IntegrityReport :=
  onMigrated path Store.integrityCheck

def backup (path target : String) : Call BackupResult :=
  let session : Store.Session (Store.Database × Store.SchemaStatus) := do
    Store.migrate
    let status ← Store.schemaStatus
    let content ← Store.Session.read .ok
    return (content, status)
  Call.whileOpen path session fun layout (content, status) => do
    Call.write fun disk => disk.makeParents target
    Call.write fun disk => disk.writeCopy target content layout
    return ⟨target, status.currentVersion⟩

/-- The failure of the first statement on content in another encoding. -/
def otherEncoding : Failure :=
  ⟨[.makingVersionsTable], .fault .otherEncoding⟩

/-- Replaces the content of the database by that of a copy and brings it to the current schema
version. A copy that cannot be brought there stays where it was put. -/
def restore (path source : String) : Call Store.SchemaStatus :=
  Call.onCopy path source fun clashes => do
    if clashes then
      Store.Session.fail otherEncoding
    else
      Store.migrate
      Store.schemaStatus

end PaymentOrders.Service
