import PaymentOrders.Store.Orders
/-!
# Deletion

Deleting removes orders together with their whole trail, or nothing at all: every requested key
has to select a live order. Each removed order gets a last revision before its trail goes, so
the numbers of the deletions are used up.
-/

namespace PaymentOrders.Store

structure DeleteRequest where
  ids : List String
  caseIds : List String
  deriving DecidableEq, Repr

structure DeletionSummary where
  referent : Referent
  /-- The number of different keys. -/
  requested : Nat
  recordsDeleted : Nat
  revisionsDeleted : Nat
  deriving DecidableEq, Repr

/-- Removes the rows that a filter selects and tells how many. -/
def dropSelected (filter : OrderFilter) : Session Nat :=
  Session.within .deletingOrders <|
    Session.write fun db => do
      let rows ← db.orderRows
      return (rows.countP (OrderRow.isSelected filter),
        { db with orders := some (rows.filter fun row => !row.isSelected filter) })

/-- The keys of a filter that belong to none of some orders, in words. -/
def missingKeys (filter : OrderFilter) (orders : List Order) : List String :=
  match filter with
  | .ids keys => (keys.filter fun id => orders.all fun order => order.id != id).map OrderId.toText
  | .caseIds keys =>
      (keys.filter fun caseId => orders.all fun order => order.caseId != caseId).map
        CaseId.toText

/-- Removes the trail of the orders that a filter selected. -/
def purgeSelected : OrderFilter → Session Nat
  | .ids keys => purgeRecords keys
  | .caseIds keys => purgeCases keys

section Engine

variable {m : Type → Type} [Monad m]

def Engine.appendDeleted (engine : Engine m) (clock : Clock) : Nat → List Order → m Unit
  | _, [] => return ()
  | i, order :: orders => do
      let _ ← engine.append .deleted order (clock i)
      engine.appendDeleted clock (i + 1) orders

def Engine.removeSelected (engine : Engine m) (filter : OrderFilter) (clock : Clock) :
    m (List Order) := do
  let matched ← engine.statement <| Session.read fun db => do
    let rows ← selectedRows filter db
    rows.mapM OrderRow.toOrder
  engine.appendDeleted clock 0 matched
  let deleted ← engine.statement (dropSelected filter)
  if deleted = matched.length then
    return matched
  else
    engine.statement (Session.fail (.ofFault (.countMismatch deleted matched.length)))

def Engine.deleteSelected (engine : Engine m) (filter : OrderFilter) (clock : Clock) :
    m DeletionSummary :=
  if filter.isEmpty then
    engine.statement (Session.fail (.ofError OrderFilter.noneSupplied))
  else
    engine.transaction do
      let removed ← engine.removeSelected filter clock
      match missingKeys filter removed with
      | [] =>
          let revisions ← engine.statement (purgeSelected filter)
          return {
            referent := filter.referent
            requested := filter.size
            recordsDeleted := removed.length
            revisionsDeleted := revisions }
      | missing =>
          engine.statement
            (Session.fail (.ofError (.notFound filter.referent (", ".intercalate missing))))

def Engine.deleteOrders (engine : Engine m) (request : DeleteRequest) (clock : Clock) :
    m DeletionSummary := do
  let filter ← engine.statement
    (Session.demand (OrderFilter.resolve request.ids request.caseIds))
  engine.deleteSelected filter clock

end Engine

/-- Records that some orders were deleted, each at its own reading of the clock. -/
def appendDeleted (clock : Clock) (i : Nat) (orders : List Order) : Session Unit :=
  Session.engine.appendDeleted clock i orders

def removeSelected (filter : OrderFilter) (clock : Clock) : Session (List Order) :=
  Session.engine.removeSelected filter clock

def deleteSelected (filter : OrderFilter) (clock : Clock) : Session DeletionSummary :=
  Session.engine.deleteSelected filter clock

def deleteOrders (request : DeleteRequest) (clock : Clock) : Session DeletionSummary :=
  Session.engine.deleteOrders request clock

end PaymentOrders.Store
