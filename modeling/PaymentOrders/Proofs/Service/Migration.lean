import PaymentOrders.Proofs.Disk
import PaymentOrders.Proofs.Store.Mutation
import PaymentOrders.Proofs.Store.Schema
import PaymentOrders.Service
/-!
# Migrating as announced

A look at the schema version and a dry run tell the same and change no row and no recorded version.
Migrating then records the versions that they told to be pending, keeps every row, and has nothing
to do a second time; or the database is of a later version, and stays as it is.
-/

namespace PaymentOrders.Service

open Store

/-- A status tells the greatest recorded version and the known versions above it. -/
structure Tells (status : SchemaStatus) (db : Database) : Prop where
  current : db.IsAt status.currentVersion
  target : status.targetVersion = targetVersion
  pending : ∀ v, v ∈ status.pendingVersions ↔ v ∈ knownVersions ∧ status.currentVersion < v

structure SameContent (before after : Database) : Prop where
  orders : after.orders = before.orders
  trail : after.trail = before.trail
  records : ∀ v, after.Records v ↔ before.Records v

/-- The status of a database that has nothing pending. -/
def upToDate : SchemaStatus := ⟨targetVersion, targetVersion, []⟩

/-- What a migration makes of a database with some versions pending. -/
structure Brought (before : Database) (pending : List Int) (after : Database) : Prop where
  done : Store.migrate before = (.ok (), after)
  records : ∀ v, after.Records v ↔ before.Records v ∨ v ∈ pending
  rows : before.KeepsRows after
  status : Store.schemaStatus after = (.ok upToDate, after)
  again : Store.migrate after = (.ok (), after)

section Store

variable {db : Database}

theorem tells_ofVersion (db : Database) : Tells (.ofVersion db.version) db where
  current := Database.isAt_version db
  target := rfl
  pending _ := mem_pendingVersions

theorem sameContent_withVersions (db : Database) : SameContent db db.withVersions :=
  ⟨rfl, rfl, fun _ => .rfl⟩

theorem brought_migrated (hknown : ¬ targetVersion < db.version) :
    Brought db (pendingVersions db.version) db.migrated where
  done := migrate_of_known hknown
  records _ := Database.records_migrated
  rows := Database.keepsRows_migrated db
  status := by
    rw [schemaStatus_apply, Database.version_migrated hknown,
      Database.withVersions_migrated, SchemaStatus.ofVersion, pendingVersions_targetVersion]
    rfl
  again := migrate_again (migrate_of_known hknown)

end Store

section Calls

variable {disk : Disk} {path : String} {file : DatabaseFile} {db after : Database}
  {pending : List Int}

theorem schemaStatus_eq (hopen : disk.openDatabase path = .ok (file, db)) :
    schemaStatus path disk =
      (.ok (.ofVersion db.version), disk.afterUse file db.withVersions) := by
  rw [schemaStatus, Call.onDatabase, hopen]
  rfl

theorem migrate_dryRun_eq (hopen : disk.openDatabase path = .ok (file, db)) :
    migrate path true disk =
      (.ok (.planned (.ofVersion db.version)), disk.afterUse file db.withVersions) := by
  rw [migrate, Call.onDatabase, hopen]
  rfl

theorem migrate_eq_of_newer (hopen : disk.openDatabase path = .ok (file, db))
    (hnewer : targetVersion < db.version) :
    migrate path false disk =
      (.error (.ofFault (.unsupportedVersion db.version targetVersion)),
        disk.afterUse file db) := by
  rw [migrate, Call.onDatabase, hopen]
  simp only [Steps.bind_of_ok (schemaStatus_apply db), Bool.false_eq_true, if_false,
    Database.withVersions_of_newer hnewer, Steps.bind_of_error (migrate_of_newer hnewer)]

theorem migrate_withVersions (db : Database) :
    Store.migrate db.withVersions = Store.migrate db := rfl

theorem Brought.migrate_eq (hbrought : Brought db pending after)
    (hopen : disk.openDatabase path = .ok (file, db)) :
    migrate path false disk =
      (.ok (.done (.ofVersion db.version) upToDate), disk.afterUse file after) := by
  have hmigrate := (migrate_withVersions db).trans hbrought.done
  rw [migrate, Call.onDatabase, hopen]
  simp only [Steps.bind_of_ok (schemaStatus_apply db), Bool.false_eq_true, if_false,
    Steps.bind_of_ok hmigrate, Steps.bind_of_ok hbrought.status]
  rfl

end Calls

/-- For a database with any recorded versions: a look at it and a dry run tell its greatest version
and the known ones above it, and change neither rows nor versions. If it is of a known version,
migrating succeeds with the versions that were told to be pending, keeps the rows, and finds the
database up to date from then on. If it is of a later version, migrating fails and changes
nothing. A last look at the version that was reached never fails. -/
theorem migration_does_as_announced {disk : Disk} {path : String} {file : DatabaseFile}
    {db : Database} (hopen : disk.openDatabase path = .ok (file, db)) :
    ∃ status viewed, Tells status db ∧ SameContent db viewed ∧
      schemaStatus path disk = (.ok status, disk.afterUse file viewed) ∧
      migrate path true disk = (.ok (.planned status), disk.afterUse file viewed) ∧
      (∀ reached target,
        (Store.migrate db).1 ≠ .error (.ofFault (.otherVersion reached target))) ∧
      (status.currentVersion ≤ targetVersion → ∃ after,
        Brought db status.pendingVersions after ∧
        migrate path false disk = (.ok (.done status upToDate), disk.afterUse file after) ∧
        (disk.Steady path → ∃ again,
          (disk.afterUse file after).openDatabase path = .ok (again, file.keeps after)) ∧
        ∀ later again, later.openDatabase path = .ok (again, after) →
          schemaStatus path later = (.ok upToDate, later.afterUse again after) ∧
          migrate path false later =
            (.ok (.done upToDate upToDate), later.afterUse again after)) ∧
      (targetVersion < status.currentVersion →
        Store.migrate db =
          (.error (.ofFault (.unsupportedVersion status.currentVersion targetVersion)), db) ∧
        migrate path false disk =
          (.error (.ofFault (.unsupportedVersion status.currentVersion targetVersion)),
            disk.afterUse file db)) := by
  refine ⟨.ofVersion db.version, db.withVersions, tells_ofVersion db,
    sameContent_withVersions db, schemaStatus_eq hopen, migrate_dryRun_eq hopen,
    migrate_ne_otherVersion db, fun hknown => ?_,
    fun hnewer => ⟨migrate_of_newer hnewer, migrate_eq_of_newer hopen hnewer⟩⟩
  have hknown : ¬ targetVersion < db.version := Int.not_lt.mpr hknown
  have hbrought := brought_migrated hknown
  have hreached : SchemaStatus.ofVersion db.migrated.version = upToDate := by
    rw [Database.version_migrated hknown, SchemaStatus.ofVersion,
      pendingVersions_targetVersion]
    rfl
  refine ⟨db.migrated, hbrought, hbrought.migrate_eq hopen, fun hsteady =>
    (Disk.leaves_afterUse hopen _).exists_openDatabase hopen hsteady, fun later again hlater => ?_⟩
  have hagain := brought_migrated (migrate_eq_ok.mp (migrate_again hbrought.done)).1
  have hstatus := schemaStatus_eq hlater
  have hmigrate := hagain.migrate_eq hlater
  rw [hreached, Database.withVersions_migrated] at hstatus
  rw [hreached, Database.migrated_migrated] at hmigrate
  exact ⟨hstatus, hmigrate⟩

/-! ## A stale version -/

/-- A database whose one recorded version is below zero, with an order. -/
def staleDatabase : Database :=
  { Sample.oneOrder with versions := some [-5] }

def staleDisk : Disk := ⟨[(["orders.db"], .database staleDatabase)]⟩

/-- A version below zero counts; the order is still there when the database is up to date. -/
theorem migration_does_as_announced_stale :
    staleDisk.openDatabase "orders.db" =
        .ok (⟨some ["orders.db"], some staleDatabase, .usual, false, false⟩, staleDatabase) ∧
      ∃ (status : SchemaStatus) (after : Database),
        staleDatabase.IsAt status.currentVersion ∧ status.currentVersion = -5 ∧
        Brought staleDatabase status.pendingVersions after ∧
        after.orders = staleDatabase.orders ∧ after.Records 1 ∧ after.Records (-5) := by
  have hopen : staleDisk.openDatabase "orders.db" =
      .ok (⟨some ["orders.db"], some staleDatabase, .usual, false, false⟩, staleDatabase) := by
    decide +kernel
  have hstale : staleDatabase.IsAt (-5) := Database.isAt_version staleDatabase
  obtain ⟨status, _, htells, _, _, _, _, hknown, _⟩ := migration_does_as_announced hopen
  have hcurrent : status.currentVersion = -5 := htells.current.unique hstale
  obtain ⟨after, hbrought, _⟩ := hknown (by rw [hcurrent]; decide)
  have hpending : (1 : Int) ∈ status.pendingVersions := by
    rw [htells.pending, hcurrent]
    decide
  refine ⟨hopen, status, after, htells.current, hcurrent, hbrought, ?_,
    (hbrought.records 1).mpr (.inr hpending),
    (hbrought.records (-5)).mpr (.inl (List.mem_singleton_self _))⟩
  rcases hbrought.rows.orders with hsame | ⟨hnone, _⟩
  · exact hsame
  · cases hnone

end PaymentOrders.Service
