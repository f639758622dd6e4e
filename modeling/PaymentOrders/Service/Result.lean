import PaymentOrders.Store.Schema
/-!
# Results

What the service answers to the calls that are about a database as a whole.
-/

namespace PaymentOrders

/-- What a migration did, or what it would do. -/
structure MigrateResult where
  dryRun : Bool
  currentVersion : Int
  targetVersion : Int
  wouldApplyVersions : List Int
  /-- The version afterwards; a dry run has none. -/
  afterVersion : Option Int
  upToDate : Option Bool
  deriving DecidableEq, Repr

/-- Where a backup was written, and the schema version of the database. -/
structure BackupResult where
  backupPath : String
  schemaVersion : Int
  deriving DecidableEq, Repr

namespace MigrateResult

def planned (before : Store.SchemaStatus) : MigrateResult where
  dryRun := true
  currentVersion := before.currentVersion
  targetVersion := before.targetVersion
  wouldApplyVersions := before.pendingVersions
  afterVersion := none
  upToDate := none

def done (before after : Store.SchemaStatus) : MigrateResult where
  dryRun := false
  currentVersion := before.currentVersion
  targetVersion := before.targetVersion
  wouldApplyVersions := before.pendingVersions
  afterVersion := some after.currentVersion
  upToDate := some after.pendingVersions.isEmpty

end MigrateResult

end PaymentOrders
