import PaymentOrders.Proofs.Page
import PaymentOrders.Proofs.Service.Calls
import PaymentOrders.Proofs.Store.Deletion
import PaymentOrders.Proofs.Store.Schema
/-!
# Requests that are refused

What can be wrong with a request in itself, and what its caller is told then. All calls but one
judge the request before they look at any file, so the answer is the same on every disk, and the
disk stays as it is. A deletion opens the database and migrates it first: what stands in the way of
that hides what is wrong with the request, and what was done of it stays.
-/

namespace PaymentOrders

/-- What is wrong with the text of an id. -/
inductive OrderId.Flaw (field text : String) : Report → Prop where
  | blank (hblank : Text.isBlank text = true) : Flaw field text [.required field]
  | malformed (hsome : Text.isBlank text = false) (hread : OrderId.parse text = none) :
      Flaw field text [.malformedId field text]

/-- What is wrong with the two lists of keys of a request. -/
inductive OrderFilter.Flaw : List String → List String → OrderError → Prop where
  | both {ids caseIds : List String} (hids : ids ≠ []) (hcaseIds : caseIds ≠ []) :
      Flaw ids caseIds bothSupplied
  | neither : Flaw [] [] noneSupplied
  | ids {ids : List String}
      (hissues : ids.flatMap (Report.ofRead ∘ OrderId.parseField "ids") ≠ []) :
      Flaw ids [] (.validation (ids.flatMap (Report.ofRead ∘ OrderId.parseField "ids")))
  | caseIds {caseIds : List String}
      (hissues : caseIds.flatMap (Report.ofRead ∘ CaseId.parseField "case_ids") ≠ []) :
      Flaw [] caseIds
        (.validation (caseIds.flatMap (Report.ofRead ∘ CaseId.parseField "case_ids")))

/-- What is wrong with the selection of a page. -/
inductive PageRequest.Flaw (page size : UInt32) : OrderError → Prop where
  | empty (hsize : size = 0) : Flaw page size emptySize
  | far (hsize : size ≠ 0) (hfar : maxOffset < page.toNat * size.toNat) :
      Flaw page size offsetTooLarge

/-! ## Reading what is wrong -/

theorem OrderId.Flaw.parseField_eq {field text : String} {report : Report}
    (h : OrderId.Flaw field text report) : OrderId.parseField field text = .error report := by
  cases h with
  | blank hblank =>
      have hissue : Issue.ofBlank field text = some (.required field) := if_pos hblank
      rw [OrderId.parseField, hissue]
  | malformed hsome hread =>
      have hissue : Issue.ofBlank field text = none := if_neg (by simp [hsome])
      rw [OrderId.parseField, hissue, hread]

theorem OrderFilter.Flaw.resolve_eq {ids caseIds : List String} {error : OrderError}
    (h : OrderFilter.Flaw ids caseIds error) : resolve ids caseIds = .error error := by
  cases h with
  | both hids hcaseIds =>
      obtain ⟨id, ids, rfl⟩ := List.exists_cons_of_ne_nil hids
      obtain ⟨caseId, caseIds, rfl⟩ := List.exists_cons_of_ne_nil hcaseIds
      rfl
  | neither => rfl
  | ids hissues =>
      cases ids with
      | nil => exact absurd rfl hissues
      | cons id ids => rw [resolve, readAll_of_issues hissues]
  | caseIds hissues =>
      cases caseIds with
      | nil => exact absurd rfl hissues
      | cons caseId caseIds => rw [resolve, readAll_of_issues hissues]

theorem PageRequest.Flaw.make_eq {page size : UInt32} {error : OrderError}
    (h : PageRequest.Flaw page size error) : make page size = .error error := by
  cases h with
  | empty hsize => rw [make, if_pos hsize]
  | far hsize hfar =>
      have hchecked : checkedOffset ⟨page, size⟩ = .error offsetTooLarge :=
        checkedOffset_of_lt hfar
      rw [make, if_neg hsize, hchecked]
      rfl

theorem OrderRequest.read_of_issues {request : OrderRequest} (h : request.issues ≠ []) :
    request.read = .error (.validation request.issues) := by
  unfold OrderRequest.read
  split
  next hnone => exact absurd hnone h
  next => rfl

theorem UpdateRequest.read_of_issues {request : UpdateRequest} (h : request.issues ≠ []) :
    request.read = .error (.validation request.issues) := by
  unfold UpdateRequest.read
  split
  next hnone => exact absurd hnone h
  next => rfl

namespace Service

open Store

theorem readId_of_flaw {text : String} {report : Report} (h : OrderId.Flaw "id" text report) :
    readId text = .error (.validation report) := by
  rw [readId, h.parseField_eq]
  rfl

namespace OrderCall

/-- What is wrong with the request of a call in itself, whatever is stored. -/
inductive Flaw : OrderCall → OrderError → Prop where
  | create {request : OrderRequest} (hissues : request.issues ≠ []) (identity : Identity)
      (fresh : OrderId) (clock : Clock) :
      Flaw (.create request identity fresh clock) (.validation request.issues)
  | update {request : UpdateRequest} (hissues : request.issues ≠ []) (clock : Clock) :
      Flaw (.update request clock) (.validation request.issues)
  | get {text : String} {report : Report} (hid : OrderId.Flaw "id" text report) :
      Flaw (.get text) (.validation report)
  | history {text : String} {report : Report} (hid : OrderId.Flaw "id" text report) :
      Flaw (.history text) (.validation report)
  | queryKeys {request : QueryRequest} {error : OrderError}
      (hkeys : OrderFilter.Flaw request.ids request.caseIds error) : Flaw (.query request) error
  | queryPage {request : QueryRequest} {filter : OrderFilter} {error : OrderError}
      (hkeys : OrderFilter.resolve request.ids request.caseIds = .ok filter)
      (hpage : PageRequest.Flaw (request.page.getD 0)
        (request.size.getD PageRequest.defaultSize) error) : Flaw (.query request) error
  | delete {request : DeleteRequest} {error : OrderError}
      (hkeys : OrderFilter.Flaw request.ids request.caseIds error) (clock : Clock) :
      Flaw (.delete request clock) error

/-- Whether a call judges its request only once the database is open. -/
def JudgesLate : OrderCall → Prop
  | delete .. => True
  | _ => False

/-- How a call ends that opens and migrates the database before it finds a mistake. -/
structure RefusedLate (path : String) (disk : Disk) (error : OrderError)
    (ending : Except Failure Reply × Disk) : Prop where
  closed : ∀ failure, disk.openDatabase path = .error failure → ending = (.error failure, disk)
  newer : ∀ file db, disk.openDatabase path = .ok (file, db) → targetVersion < db.version →
    ending = (.error (.ofFault (.unsupportedVersion db.version targetVersion)),
      disk.afterUse file db)
  known : ∀ file db, disk.openDatabase path = .ok (file, db) → ¬ targetVersion < db.version →
    ending = (.error (.ofError error), disk.afterUse file db.migrated)

variable {call : OrderCall} {error : OrderError}

/-- A request with a mistake never comes to a session, unless it is judged late. -/
theorem Flaw.session_eq (hflaw : call.Flaw error) (hearly : ¬ call.JudgesLate) :
    call.session = .error (.ofError error) := by
  cases hflaw with
  | create hissues identity fresh clock => rw [session, OrderRequest.read_of_issues hissues]
  | update hissues clock => rw [session, UpdateRequest.read_of_issues hissues]
  | get hid => rw [session, readId_of_flaw hid]
  | history hid => rw [session, readId_of_flaw hid]
  | @queryKeys request _ hkeys =>
      have hread : readQuery request = .error error := by
        rw [readQuery, hkeys.resolve_eq]
        rfl
      rw [session, hread]
  | @queryPage request filter _ hkeys hpage =>
      have hread : readQuery request = .error error := by
        rw [readQuery, hkeys, Steps.bind_ok, hpage.make_eq]
        rfl
      rw [session, hread]
  | delete hkeys clock => exact absurd trivial hearly

theorem refusedLate_delete {request : DeleteRequest}
    (hkeys : OrderFilter.Flaw request.ids request.caseIds error) (clock : Clock) (path : String)
    (disk : Disk) :
    RefusedLate path disk error ((OrderCall.delete request clock).perform path disk) := by
  have hperform := perform_apply path disk (.delete request clock)
  simp only [session] at hperform
  have hdelete (db : Database) : (Reply.deleted <$> deleteOrders request clock) db =
      (.error (.ofError error), db) :=
    Steps.map_of_error (deleteOrders_of_unresolved hkeys.resolve_eq clock db)
  constructor
  · intro failure hopen
    rw [hperform, onMigrated_of_refused hopen]
  · intro file db hopen hnewer
    rw [hperform, onMigrated_of_failed hopen (migrate_of_newer hnewer)]
  · intro file db hopen hknown
    rw [hperform, onMigrated_of_migrated hopen (migrate_of_known hknown), hdelete]

end OrderCall

/-- A request with a mistake of its own is answered with that mistake on every disk, which stays as
it is, and no database is looked at. Only a deletion opens and migrates the database first: its
mistake is told if that succeeds, and else what stood in the way. -/
theorem mistaken_request_stays_outside {call : OrderCall} {error : OrderError}
    (hflaw : call.Flaw error) (path : String) (disk : Disk) :
    (¬ call.JudgesLate → call.perform path disk = (.error (.ofError error), disk)) ∧
      (call.JudgesLate → OrderCall.RefusedLate path disk error (call.perform path disk)) := by
  constructor
  · intro hearly
    rw [OrderCall.perform_apply, hflaw.session_eq hearly]
  · intro hlate
    cases hflaw with
    | delete hkeys clock => exact OrderCall.refusedLate_delete hkeys clock path disk
    | _ => exact absurd hlate not_false

/-! ## A database of a later version -/

def unknownVersionDisk : Disk :=
  ⟨[(["orders.db"], .database { Sample.oneOrder with versions := some [1, 2] })]⟩

/-- On a database that cannot be migrated, the same two lists are a mistake of a query and are not
looked at by a deletion. -/
theorem mistaken_request_stays_outside_newer :
    let query := OrderCall.query ⟨["nope"], [Sample.firstCase.toText], none, none⟩
    let delete := OrderCall.delete ⟨["nope"], [Sample.firstCase.toText]⟩ Sample.clock
    query.perform "orders.db" unknownVersionDisk =
        (.error (.ofError OrderFilter.bothSupplied), unknownVersionDisk) ∧
      (delete.perform "orders.db" unknownVersionDisk).1 =
        .error (.ofFault (.unsupportedVersion 2 1)) := by
  intro query delete
  have hkeys : OrderFilter.Flaw ["nope"] [Sample.firstCase.toText] OrderFilter.bothSupplied :=
    .both (by simp) (by simp)
  have hquery := mistaken_request_stays_outside (.queryKeys hkeys : query.Flaw _)
    "orders.db" unknownVersionDisk
  have hdelete := mistaken_request_stays_outside (.delete hkeys Sample.clock : delete.Flaw _)
    "orders.db" unknownVersionDisk
  have hopen : unknownVersionDisk.openDatabase "orders.db" =
      .ok (⟨some ["orders.db"], some { Sample.oneOrder with versions := some [1, 2] }, .usual,
        false, false⟩, { Sample.oneOrder with versions := some [1, 2] }) := by
    decide +kernel
  refine ⟨hquery.1 not_false, ?_⟩
  rw [(hdelete.2 trivial).newer _ _ hopen (by decide)]
  rfl

/-- A deletion without keys makes the database that it has nothing to ask of. -/
theorem mistaken_deletion_makes_database :
    ¬ ∀ (call : OrderCall) (error : OrderError) (path : String) (disk : Disk), call.Flaw error →
      call.perform path disk = (.error (.ofError error), disk) := by
  intro houtside
  have hanswer := houtside (.delete ⟨[], []⟩ Sample.clock) OrderFilter.noneSupplied "orders.db"
    .empty (.delete .neither Sample.clock)
  have hmade : ((OrderCall.delete ⟨[], []⟩ Sample.clock).perform "orders.db" .empty).2 ≠
      .empty := by
    decide +kernel
  exact hmade (congrArg Prod.snd hanswer)

end Service

end PaymentOrders
