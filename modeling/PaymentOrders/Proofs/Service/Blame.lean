import PaymentOrders.Proofs.Service.Calls
import PaymentOrders.Proofs.Store.Deletion
import PaymentOrders.Proofs.Store.Scan
import PaymentOrders.Proofs.Store.Schema
/-!
# What callers are blamed for

A caller whose request is in order is told that it is wrong in one case only: the first stored row
that is not read has a case id that is none, and what is read before it is in order. Any other row
that is not read is a fault of the storage.
-/

namespace PaymentOrders

open Store

namespace Service

/-! ## Opening and migrating -/

theorem blameless_openDatabase (disk : Disk) (path : String) :
    Blameless (disk.openDatabase path) := by
  unfold Disk.openDatabase
  apply Blameless.bind
  · cases disk.openFile path with
    | ok file => exact .ok file
    | error fault => exact .fault _ fault
  · intro file
    cases disk.contentOf file with
    | ok content => exact .ok _
    | error refusal => exact .fault _ _

theorem blameless_migrate : Store.migrate.Blameless := by
  intro db
  by_cases hnewer : targetVersion < db.version
  · rw [migrate_of_newer hnewer]
    exact .fault _ _
  · rw [migrate_of_known hnewer]
    exact .ok ()

section Migrating

variable {α : Type} {path : String} {disk : Disk} {migrated : Database}

/-- The path leads to a database, and this is what migrating makes of it. -/
def Migrates (path : String) (disk : Disk) (migrated : Database) : Prop :=
  ∃ file db, disk.openDatabase path = .ok (file, db) ∧ Store.migrate db = (.ok (), migrated)

theorem onMigrated_of_migrates (h : Migrates path disk migrated) (session : Session α) :
    (onMigrated path session disk).1 = (session migrated).1 := by
  obtain ⟨file, db, hopen, hmigrate⟩ := h
  rw [onMigrated_of_migrated hopen hmigrate]

/-- Opening and migrating are never blamed on the request. -/
theorem blameless_onMigrated_of_closed (h : ∀ migrated, ¬ Migrates path disk migrated)
    (session : Session α) : Blameless (onMigrated path session disk).1 := by
  cases hopen : disk.openDatabase path with
  | error failure =>
      rw [onMigrated_of_refused hopen]
      exact .error (blameless_openDatabase disk path failure hopen)
  | ok opened =>
      obtain ⟨file, db⟩ := opened
      rcases hmigrate : Store.migrate db with ⟨answer, after⟩
      cases answer with
      | ok done => exact absurd ⟨file, db, hopen, hmigrate⟩ (h after)
      | error failure =>
          rw [onMigrated_of_failed hopen hmigrate]
          refine .error (blameless_migrate db failure ?_)
          rw [hmigrate]

theorem blameless_onMigrated {session : Session α}
    (h : ∀ migrated, Migrates path disk migrated → Blameless (session migrated).1) :
    Blameless (onMigrated path session disk).1 := by
  by_cases hready : ∃ migrated, Migrates path disk migrated
  · obtain ⟨migrated, hmigrates⟩ := hready
    rw [onMigrated_of_migrates hmigrates]
    exact h migrated hmigrates
  · exact blameless_onMigrated_of_closed (fun migrated hmigrates => hready ⟨migrated, hmigrates⟩)
      session

end Migrating

namespace OrderCall

/-- The request of a call is in order, whatever is stored. -/
def WellFormed : OrderCall → Prop
  | create request identity _ _ =>
      (∃ fields, request.read = .ok fields) ∧
        ∃ name, identity = .ok name ∧ Text.isBlank name = false
  | update request _ => ∃ read, request.read = .ok read
  | get text | history text => ∃ id, readId text = .ok id
  | query request => ∃ read, readQuery request = .ok read
  | delete request _ => ∃ filter, OrderFilter.resolve request.ids request.caseIds = .ok filter

/-- The rows that a call has to read, in the order in which it does. -/
def reads (db : Database) : OrderCall → List StoredRow
  | create .. => []
  | update request _ =>
      match request.read with
      | .ok (id, _) => (db.rowWith id).map .order
      | .error _ => []
  | get text =>
      match readId text with
      | .ok id => (db.rowWith id).map .order
      | .error _ => []
  | history text =>
      match readId text with
      | .ok id => (db.rowsOf id).map .revision
      | .error _ => []
  | query request =>
      match readQuery request with
      | .ok (filter, page) =>
          (((db.rowsSelected filter).drop page.offset.toNat).take page.size.toNat).map .order
      | .error _ => []
  | delete request _ =>
      match OrderFilter.resolve request.ids request.caseIds with
      | .ok filter => (db.rowsSelected filter).map .order
      | .error _ => []

theorem scans_foundOrder (db : Database) (id : OrderId) :
    (foundOrder id).Scans db ((db.rowWith id).map .order) := by
  apply (scans_getOrder db id).bind
  intro order?
  cases order? with
  | none => exact fun _ => .error fun hkind => by cases hkind
  | some order => exact fun _ => .ok order

theorem scans_foundHistory (db : Database) (id : OrderId) :
    (foundHistory id).Scans db ((db.rowsOf id).map .revision) := by
  apply (scans_revisionsOf db id).bind
  intro revisions
  cases revisions with
  | nil => exact fun _ => .error fun hkind => by cases hkind
  | cons revision revisions => exact fun _ => .ok _

/-- A call whose request is in order comes to a session, which reads its rows. -/
theorem scans_session {call : OrderCall} (hformed : call.WellFormed) :
    ∃ session, call.session = .ok session ∧ ∀ db, session.Scans db (call.reads db) := by
  cases call with
  | create request identity fresh clock =>
      obtain ⟨⟨fields, hread⟩, name, rfl, hname⟩ := hformed
      refine ⟨_, by rw [session, hread], fun db => ?_⟩
      exact (scans_createOrder (OrderRequest.validate_of_read hread) hname db fresh clock).map _
  | update request clock =>
      obtain ⟨⟨id, fields⟩, hread⟩ := hformed
      refine ⟨_, by rw [session, hread], fun db => ?_⟩
      rw [reads, hread]
      exact (scans_updateOrder (UpdateRequest.validate_of_read hread) db id clock).map _
  | get text =>
      obtain ⟨id, hread⟩ := hformed
      refine ⟨_, by rw [session, hread], fun db => ?_⟩
      rw [reads, hread]
      exact (scans_foundOrder db id).map _
  | history text =>
      obtain ⟨id, hread⟩ := hformed
      refine ⟨_, by rw [session, hread], fun db => ?_⟩
      rw [reads, hread]
      exact (scans_foundHistory db id).map _
  | query request =>
      obtain ⟨⟨filter, page⟩, hread⟩ := hformed
      refine ⟨_, by rw [session, hread], fun db => ?_⟩
      obtain ⟨hkeys, hoffset⟩ := of_readQuery hread
      rw [reads, hread]
      exact (scans_queryOrders hoffset hkeys db).map _
  | delete request clock =>
      obtain ⟨filter, hresolve⟩ := hformed
      refine ⟨_, rfl, fun db => ?_⟩
      have hkeys := (OrderFilter.keys_of_resolve hresolve).1
      rw [reads, hresolve]
      refine Session.Scans.map (Session.Scans.of_eq (scans_deleteSelected hkeys db clock) ?_) _
      exact deleteOrders_of_resolved hresolve clock db

variable {disk : Disk} {path : String} {file : DatabaseFile} {db migrated : Database}

theorem perform_of_migrated {call : OrderCall} {session : Session Reply}
    (hsession : call.session = .ok session) (hopen : disk.openDatabase path = .ok (file, db))
    (hmigrate : Store.migrate db = (.ok (), migrated)) :
    (call.perform path disk).1 = (session migrated).1 := by
  rw [perform_apply, hsession]
  simp only [onMigrated_of_migrated hopen hmigrate]

/-- The first row that is not read decides how a call fails whose request is in order. -/
theorem perform_of_unread {call : OrderCall} (hformed : call.WellFormed)
    (hopen : disk.openDatabase path = .ok (file, db))
    (hmigrate : Store.migrate db = (.ok (), migrated)) {row : StoredRow}
    (hrow : (call.reads migrated).find? StoredRow.isUnread = some row) :
    row.Misnumbered ∧ FailsAs (call.perform path disk).1 .validation ∨
      ¬ row.Misnumbered ∧ FailsAs (call.perform path disk).1 .fatal := by
  obtain ⟨session, hsession, hscans⟩ := scans_session hformed
  have hunread : row.isUnread = true := List.find?_some hrow
  obtain ⟨failure, hfailure⟩ := Option.isSome_iff_exists.mp hunread
  have hfirst : (call.reads migrated).findSome? StoredRow.failure? = some failure := by
    rw [StoredRow.findSome?_failure?, hrow, Option.bind_some, hfailure]
  have hanswer := (hscans migrated).stopped failure hfirst
  rw [perform_of_migrated hsession hopen hmigrate, hanswer]
  rcases StoredRow.kind_of_failure? hfailure with ⟨hmis, hkind⟩ | ⟨hmis, hkind⟩
  · exact .inl ⟨hmis, failure, rfl, hkind⟩
  · exact .inr ⟨hmis, failure, rfl, hkind⟩

theorem perform_of_read {call : OrderCall} (hformed : call.WellFormed)
    (hopen : disk.openDatabase path = .ok (file, db))
    (hmigrate : Store.migrate db = (.ok (), migrated))
    (hread : (call.reads migrated).find? StoredRow.isUnread = none) :
    Blameless (call.perform path disk).1 := by
  obtain ⟨session, hsession, hscans⟩ := scans_session hformed
  rw [perform_of_migrated hsession hopen hmigrate]
  apply (hscans migrated).passed
  rw [StoredRow.findSome?_failure?, hread, Option.bind_none]

/-- A database that is not opened or not migrated is not blamed on the caller. -/
theorem blameless_perform {call : OrderCall} (hformed : call.WellFormed)
    (hclosed : ∀ file db migrated, disk.openDatabase path = .ok (file, db) →
      Store.migrate db ≠ (.ok (), migrated)) :
    Blameless (call.perform path disk).1 := by
  obtain ⟨session, hsession, _⟩ := scans_session hformed
  have hnever : ∀ migrated, ¬ Migrates path disk migrated :=
    fun migrated ⟨file, db, hopen, hmigrate⟩ => hclosed file db migrated hopen hmigrate
  rw [perform_apply, hsession]
  exact blameless_onMigrated_of_closed hnever session

end OrderCall

/-- A caller whose request is in order is told that it is wrong exactly if the first row that is
not read has a case id that is none. If it is any other row, the failure is fatal. -/
theorem blamed_iff_misnumbered {call : OrderCall} (hformed : call.WellFormed) (disk : Disk)
    (path : String) :
    (FailsAs (call.perform path disk).1 .validation ↔
      ∃ file db migrated row, disk.openDatabase path = .ok (file, db) ∧
        Store.migrate db = (.ok (), migrated) ∧
        (call.reads migrated).find? StoredRow.isUnread = some row ∧ row.Misnumbered) ∧
    ∀ file db migrated row, disk.openDatabase path = .ok (file, db) →
      Store.migrate db = (.ok (), migrated) →
      (call.reads migrated).find? StoredRow.isUnread = some row → ¬ row.Misnumbered →
      FailsAs (call.perform path disk).1 .fatal := by
  refine ⟨⟨?_, ?_⟩, ?_⟩
  · rintro ⟨failure, hfailed, hkind⟩
    by_cases hready : ∃ file db migrated, disk.openDatabase path = .ok (file, db) ∧
        Store.migrate db = (.ok (), migrated)
    · obtain ⟨file, db, migrated, hopen, hmigrate⟩ := hready
      cases hrow : (call.reads migrated).find? StoredRow.isUnread with
      | none =>
          exact absurd hkind (OrderCall.perform_of_read hformed hopen hmigrate hrow failure hfailed)
      | some row =>
          rcases OrderCall.perform_of_unread hformed hopen hmigrate hrow with
            ⟨hmis, _⟩ | ⟨_, found, hfound, hfatal⟩
          · exact ⟨file, db, migrated, row, hopen, hmigrate, hrow, hmis⟩
          · rw [hfailed] at hfound
            cases hfound
            rw [hkind] at hfatal
            cases hfatal
    · have hblameless := OrderCall.blameless_perform hformed fun file db migrated hopen hmigrate =>
        hready ⟨file, db, migrated, hopen, hmigrate⟩
      exact absurd hkind (hblameless failure hfailed)
  · rintro ⟨file, db, migrated, row, hopen, hmigrate, hrow, hmis⟩
    rcases OrderCall.perform_of_unread hformed hopen hmigrate hrow with ⟨_, h⟩ | ⟨hnot, _⟩
    · exact h
    · exact absurd hmis hnot
  · intro file db migrated row hopen hmigrate hrow hnot
    rcases OrderCall.perform_of_unread hformed hopen hmigrate hrow with ⟨hmis, _⟩ | ⟨_, h⟩
    · exact absurd hmis hnot
    · exact h

/-! ## A planted row -/

def misnumberedRow : OrderRow :=
  { OrderRow.ofOrder Sample.firstOrder with caseId := 6551341964128976 }

def misnumberedDisk : Disk :=
  ⟨[(["orders.db"], .database { Sample.oneOrder with orders := some [misnumberedRow] })]⟩

/-- The caller of an order that is stored under a wrong case id is told that the request is. -/
theorem blamed_iff_misnumbered_planted :
    (OrderCall.get Sample.firstId.toText).WellFormed ∧
      FailsAs ((OrderCall.get Sample.firstId.toText).perform "orders.db" misnumberedDisk).1
        .validation := by
  have hformed : (OrderCall.get Sample.firstId.toText).WellFormed :=
    ⟨Sample.firstId, by decide +kernel⟩
  have hopen : misnumberedDisk.openDatabase "orders.db" =
      .ok (⟨some ["orders.db"], some { Sample.oneOrder with orders := some [misnumberedRow] },
        .usual, false, false⟩, { Sample.oneOrder with orders := some [misnumberedRow] }) := by
    decide +kernel
  have hrow : ((OrderCall.get Sample.firstId.toText).reads
      { Sample.oneOrder with orders := some [misnumberedRow] }).find? StoredRow.isUnread =
        some (.order misnumberedRow) := by
    decide +kernel
  have hmis : misnumberedRow.Misnumbered :=
    ⟨Sample.firstId.toText, Sample.firstId, rfl, readOrderId_toText _, by decide, by decide⟩
  exact ⟨hformed, (blamed_iff_misnumbered hformed _ _).1.mpr
    ⟨_, _, _, .order misnumberedRow, hopen, rfl, hrow, hmis⟩⟩

/-- So not every caller whose request is in order is spared. -/
theorem caller_can_be_blamed :
    ¬ ∀ (call : OrderCall) (disk : Disk) (path : String), call.WellFormed →
      ¬ FailsAs (call.perform path disk).1 .validation := by
  intro hspared
  have hanswer : ((OrderCall.get Sample.firstId.toText).perform "orders.db" misnumberedDisk).1 =
      .error ⟨[.readingCaseId 6551341964128976],
        .error (.validation [.caseIdChecksum "case_id" "6551341964128976"])⟩ := by
    decide +kernel
  exact hspared (.get Sample.firstId.toText) misnumberedDisk "orders.db"
    ⟨Sample.firstId, by decide +kernel⟩ ⟨_, hanswer, rfl⟩

end Service

end PaymentOrders
