import PaymentOrders.Proofs.Service.Calls
import PaymentOrders.Proofs.Store.Reading
/-!
# What callers learn of an order

On a database that only calls ever wrote to, an order that can be got has a history, which retells
it from its creation on, and an order that cannot be got has none.
-/

namespace PaymentOrders.Service

open Store

section Answers

variable {disk : Disk} {path : String} {file : DatabaseFile} {ledger : Ledger} {α : Type}

theorem migrate_database (ledger : Ledger) :
    Store.migrate ledger.database = (.ok (), ledger.database) := rfl

theorem onMigrated_database (hopen : disk.openDatabase path = .ok (file, ledger.database))
    (session : Session α) :
    onMigrated path session disk =
      ((session ledger.database).1, disk.afterUse file (session ledger.database).2) :=
  onMigrated_of_migrated hopen (migrate_database ledger) session

theorem get_of_malformed {text : String} {error : OrderError} (h : readId text = .error error) :
    (get path text disk).1 = .error (.ofError error) := by
  rw [get, Steps.bind_of_error (demand_of_error h disk)]

theorem history_of_malformed {text : String} {error : OrderError}
    (h : readId text = .error error) :
    (history path text disk).1 = .error (.ofError error) := by
  rw [history, Steps.bind_of_error (demand_of_error h disk)]

theorem get_of_ledger (hopen : disk.openDatabase path = .ok (file, ledger.database))
    {text : String} {id : OrderId} (hid : readId text = .ok id) :
    (get path text disk).1 =
      match ledger.orders.find? (fun order => order.id = id) with
      | some order => .ok order
      | none => .error (unknownId id) := by
  have hread := onMigrated_database hopen (getOrder id)
  rw [Ledger.getOrder_database] at hread
  rw [get, Steps.bind_of_ok (demand_of_ok hid disk), Steps.bind_of_ok hread]
  cases ledger.orders.find? (fun order => order.id = id) <;> rfl

theorem history_of_ledger (hopen : disk.openDatabase path = .ok (file, ledger.database))
    (hkept : ledger.WellKept) {text : String} {id : OrderId} (hid : readId text = .ok id) :
    (history path text disk).1 =
      match ledger.history id with
      | [] => .error (unknownId id)
      | revisions => .ok revisions := by
  have hread := onMigrated_database hopen (revisionsOf id)
  rw [hkept.revisionsOf_database] at hread
  rw [history, Steps.bind_of_ok (demand_of_ok hid disk), Steps.bind_of_ok hread]
  cases ledger.history id <;> rfl

theorem failsAs_unknownId (id : OrderId) :
    FailsAs (.error (unknownId id) : Except Failure α) .notFound :=
  ⟨unknownId id, rfl, rfl⟩

theorem not_failsAs_ok (a : α) (kind : ErrorKind) : ¬ FailsAs (.ok a) kind := by
  rintro ⟨failure, h, _⟩
  cases h

theorem not_notFound_of_readId {text : String} {error : OrderError}
    (h : readId text = .error error) :
    ¬ FailsAs (.error (.ofError error) : Except Failure α) .notFound := by
  rintro ⟨failure, hfailure, hkind⟩
  cases hfailure
  unfold readId at h
  cases hparse : OrderId.parseField "id" text with
  | ok id =>
      rw [hparse] at h
      cases h
  | error report =>
      rw [hparse] at h
      cases h
      cases hkind

/-- A history is not found exactly when the order itself is not. -/
theorem history_notFound_iff {answers : List Answer}
    (hopen : disk.openDatabase path = .ok (file, ledger.database)) (hkept : ledger.WellKept)
    (htold : ledger.Told answers) (text : String) :
    FailsAs (history path text disk).1 .notFound ↔ FailsAs (get path text disk).1 .notFound := by
  cases hid : readId text with
  | error error =>
      rw [history_of_malformed hid, get_of_malformed hid]
      exact iff_of_false (not_notFound_of_readId hid) (not_notFound_of_readId hid)
  | ok id =>
      have hnil := htold.history_eq_nil_iff hkept id
      rw [history_of_ledger hopen hkept hid, get_of_ledger hopen hid]
      cases hfound : ledger.orders.find? (fun order => order.id = id) with
      | none =>
          rw [hnil.mpr hfound]
          exact iff_of_true (failsAs_unknownId id) (failsAs_unknownId id)
      | some order =>
          rw [hfound] at hnil
          cases hstory : ledger.history id with
          | nil => cases hnil.mp hstory
          | cons revision revisions =>
              exact iff_of_false (not_failsAs_ok _ _) (not_failsAs_ok _ _)

theorem integrityCheck_of_ledger {answers : List Answer}
    (hopen : disk.openDatabase path = .ok (file, ledger.database)) (hkept : ledger.WellKept)
    (htold : ledger.Told answers) :
    (integrityCheck path disk).1 = .ok ⟨true, quickCheckPassed, [], [], .ofVersion 1⟩ := by
  rw [integrityCheck, onMigrated_database hopen, Ledger.integrityCheck_database hkept htold]

end Answers

/-- After any run the trail holds the stories of the live orders and nothing else. The story of
a live order starts with its creation, goes on with its updates, each as it was answered, and
ends with the order as it is. So a history is not found exactly when its order is not, and nothing
is inconsistent. -/
theorem history_replays_record (calls : List Mutation) :
    ∃ (orders : List Order) (trail : Trail),
      (Run.of calls).database.Holds (orders.map OrderRow.ofOrder) trail ∧
      (∀ order ∈ orders, ∃ revisions,
        (getOrder order.id (Run.of calls).database).1 = .ok (some order) ∧
        (revisionsOf order.id (Run.of calls).database).1 = .ok revisions ∧
        revisions.Pairwise (fun a b => a.number < b.number) ∧
        (∃ first updates, AnsweredSince (Run.of calls).answers order.id first updates ∧
          revisions.length = 1 + updates.length) ∧
        Retells (Run.of calls).answers order revisions) ∧
      (∀ row ∈ trail.rows, ∃ order ∈ orders, row.recordId = order.id.toText) ∧
      (∀ id, (revisionsOf id (Run.of calls).database).1 = .ok [] ↔
        (getOrder id (Run.of calls).database).1 = .ok none) ∧
      (∃ report, (Store.integrityCheck (Run.of calls).database).1 = .ok report ∧
        report.isConsistent = true) ∧
      ∀ disk path file, disk.openDatabase path = .ok (file, (Run.of calls).database) →
        (∀ text, FailsAs (history path text disk).1 .notFound ↔
          FailsAs (get path text disk).1 .notFound) ∧
        ∃ report, (integrityCheck path disk).1 = .ok report ∧ report.isConsistent = true := by
  obtain ⟨ledger, hkeeps⟩ := Run.exists_ledger calls
  have hkept := hkeeps.kept
  rw [hkeeps.database_eq]
  refine ⟨ledger.orders, ledger.trail, ledger.holds, ?_, ?_, ?_, ?_, ?_⟩
  · intro order horder
    have hretells := hkeeps.told order horder
    refine ⟨ledger.history order.id, ?_, ?_, ?_, hretells.length, hretells⟩
    · rw [Ledger.getOrder_database, hkept.find?_of_mem horder]
    · rw [hkept.revisionsOf_database]
    · exact hkept.ascending_history order.id
  · intro row hrow
    obtain ⟨entry, hentry, rfl⟩ := List.mem_map.mp hrow
    obtain ⟨owner, howner, hid⟩ := hkept.owned entry hentry
    refine ⟨owner, howner, ?_⟩
    rw [LedgerEntry.recordId_toRow, hid]
  · intro id
    rw [hkept.revisionsOf_database, Ledger.getOrder_database, Except.ok.injEq, Except.ok.injEq]
    exact hkeeps.told.history_eq_nil_iff hkept id
  · rw [Ledger.integrityCheck_database hkept hkeeps.told]
    exact ⟨_, rfl, rfl⟩
  · intro disk path file hopen
    exact ⟨history_notFound_iff hopen hkept hkeeps.told, _,
      integrityCheck_of_ledger hopen hkept hkeeps.told, rfl⟩

/-- The run in which an order moves to another case id before the first one is deleted, in the
only file of a disk. -/
theorem history_replays_record_moved :
    let db := (Run.of Sample.movedAway).database
    let disk : Disk := ⟨[(["orders.db"], .database db)]⟩
    disk.openDatabase "orders.db" = .ok (⟨some ["orders.db"], some db, .usual, false, false⟩, db) ∧
      ∃ report, (integrityCheck "orders.db" disk).1 = .ok report ∧ report.isConsistent = true := by
  intro db disk
  have hopen : disk.openDatabase "orders.db" =
      .ok (⟨some ["orders.db"], some db, .usual, false, false⟩, db) := by
    decide +kernel
  obtain ⟨orders, trail, _, _, _, _, _, hservice⟩ := history_replays_record Sample.movedAway
  exact ⟨hopen, (hservice disk "orders.db" _ hopen).2⟩

end PaymentOrders.Service
