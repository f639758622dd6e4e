import PaymentOrders.Store.Constraint
import PaymentOrders.Store.Schema
/-!
# Rows from elsewhere

Another program that writes to the same tables need not know what the rows mean. It may leave
columns out, choose its own revision numbers and switch the rules on single values off; the
tables still hold it to everything else that they demand. No call of the service writes such rows:
they are there to set up databases that the calls then meet.
-/

namespace PaymentOrders.Store

/-- A row for the table of live orders, of which any column may be left out. -/
structure OrderDraft where
  id : Option String
  caseId : Option Int
  orderReference : Option String
  action : Option String
  responsibleParty : Option String
  effectiveFrom : Option String
  createdTimestamp : Option String
  createdBy : Option String
  deriving DecidableEq, Repr

def OrderDraft.toRow (draft : OrderDraft) : Except Failure OrderRow :=
  match draft.caseId, draft.orderReference, draft.action, draft.responsibleParty,
    draft.effectiveFrom, draft.createdTimestamp, draft.createdBy with
  | some caseId, some orderReference, some action, some responsibleParty, some effectiveFrom,
    some createdTimestamp, some createdBy =>
      .ok {
        id := draft.id
        caseId, orderReference, action, responsibleParty, effectiveFrom, createdTimestamp,
        createdBy }
  | _, _, _, _, _, _, _ => .error (rejected .orders .notNull)

def plantOrder (checked : Bool) (draft : OrderDraft) : Session Unit :=
  Session.write fun db => do
    let rows ← db.orderRows
    let row ← draft.toRow
    let grown ← insertOrderRow checked row rows
    return ((), { db with orders := some grown })

/-- A row for the trail, of which any column may be left out. -/
structure RevisionDraft where
  number : Option Int
  recordId : Option String
  changeType : Option String
  timestamp : Option String
  caseId : Option Int
  orderReference : Option String
  action : Option String
  responsibleParty : Option String
  effectiveFrom : Option String
  createdTimestamp : Option String
  createdBy : Option String
  deriving DecidableEq, Repr

def RevisionDraft.toRow (draft : RevisionDraft) (number : Int) : Except Failure RevisionRow :=
  match draft.recordId, draft.changeType, draft.timestamp with
  | some recordId, some changeType, some timestamp =>
      .ok {
        number, recordId, changeType, timestamp
        caseId := draft.caseId
        orderReference := draft.orderReference
        action := draft.action
        responsibleParty := draft.responsibleParty
        effectiveFrom := draft.effectiveFrom
        createdTimestamp := draft.createdTimestamp
        createdBy := draft.createdBy }
  | _, _, _ => .error (rejected .trail .notNull)

/-- The number of a drafted revision: its own, or else the next one. -/
def RevisionDraft.numberIn (draft : RevisionDraft) (trail : Trail) : Except Failure Int :=
  match draft.number with
  | some number => .ok number
  | none => trail.nextNumber

def plantRevision (checked : Bool) (draft : RevisionDraft) : Session Int :=
  Session.write fun db => do
    let trail ← db.theTrail
    let number ← draft.numberIn trail
    let row ← draft.toRow number
    let grown ← trail.insert checked row
    return (number, { db with trail := some grown })

def Database.theVersions (db : Database) : Except Failure (List Int) :=
  match db.versions with
  | some versions => .ok versions
  | none => .error (Database.missing .versions)

/-- Records a version, the one after the largest if none is given. -/
def plantVersion (version : Option Int) (appliedAt : Option String) : Session Unit :=
  Session.write fun db => do
    let versions ← db.theVersions
    let version := version.getD (currentVersion versions + 1)
    if appliedAt.isNone then
      .error (rejected .versions .notNull)
    else if versions.contains version then
      .error (rejected .versions .duplicateKey)
    else
      return ((), { db with versions := some (recordVersion version versions) })

def clearVersions : Session Unit :=
  Session.write fun db => do
    let _ ← db.theVersions
    return ((), { db with versions := some [] })

def dropOrders : Session Unit :=
  Session.write fun db => do
    let _ ← db.orderRows
    return ((), { db with orders := none })

def dropTrail : Session Unit :=
  Session.write fun db => do
    let _ ← db.theTrail
    return ((), { db with trail := none })

end PaymentOrders.Store
