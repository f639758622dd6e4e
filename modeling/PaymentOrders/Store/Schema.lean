import PaymentOrders.Store.Database
/-!
# Schema versions

A database records which versions of its schema were applied to it. Migrating applies the
versions that are pending; a database of a later version than the latest known one is left
alone.
-/

namespace PaymentOrders.Store

/-- The schema versions that can be applied, in ascending order. -/
def knownVersions : List Int := [1]

/-- The schema version that everything else here works on. -/
def targetVersion : Int := 1

/-- The version that recorded versions amount to: the largest of them, zero without any. -/
def currentVersion (versions : List Int) : Int :=
  versions.max?.getD 0

/-- The versions that are not yet applied to a database of some version. -/
def pendingVersions (current : Int) : List Int :=
  knownVersions.filter fun version => current < version

structure SchemaStatus where
  currentVersion : Int
  targetVersion : Int
  pendingVersions : List Int
  deriving DecidableEq, Repr

def SchemaStatus.ofVersion (current : Int) : SchemaStatus :=
  ⟨current, Store.targetVersion, Store.pendingVersions current⟩

/-- The recorded versions with one more; a version is recorded once. -/
def recordVersion (version : Int) : List Int → List Int
  | [] => [version]
  | v :: vs =>
      if version < v then version :: v :: vs
      else if version = v then v :: vs
      else v :: recordVersion version vs

namespace Database

def withVersions (db : Database) : Database :=
  { db with versions := some (db.versions.getD []) }

/-- The database with the tables of a schema version, which is recorded. Tables that are there
already keep their rows; of those that are made the trail comes last. -/
def applied (version : Int) (db : Database) : Database where
  versions := some (recordVersion version (db.versions.getD []))
  orders := some (db.orders.getD [])
  trail := some (db.trail.getD .empty)
  ordersNewer := db.trail.isSome && (db.orders.isNone || db.ordersNewer)

end Database

def readVersion : Session Int :=
  Session.write fun db => .ok (currentVersion (db.versions.getD []), db.withVersions)

def schemaStatus : Session SchemaStatus :=
  return .ofVersion (← readVersion)

def applyVersion (version : Int) : Session Unit :=
  Session.write fun db => .ok ((), db.applied version)

/-- Goes on only if the recorded version is the one that everything else works on. -/
def demandTarget : Session Unit :=
  Session.read fun db =>
    let reached := currentVersion (db.versions.getD [])
    if reached = targetVersion then .ok ()
    else .error (.ofFault (.otherVersion reached targetVersion))

/-- Applies all pending schema versions, and looks whether that was enough. -/
def migrate : Session Unit := do
  let current ← readVersion
  if targetVersion < current then
    Session.fail (.ofFault (.unsupportedVersion current targetVersion))
  else
    (pendingVersions current).forM applyVersion
    demandTarget

end PaymentOrders.Store
