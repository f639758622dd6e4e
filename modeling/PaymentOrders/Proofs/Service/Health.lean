import PaymentOrders.Proofs.Service.Calls
import PaymentOrders.Proofs.Store.Reading
/-!
# A database that only calls wrote to

Whatever calls a new database went through, it is opened, migrated and read without a fault. So
as long as a call gets what it takes from outside, it succeeds or its caller learns what is wrong
with the request.
-/

namespace PaymentOrders

open Store

/-- The answer is no failure that its caller cannot do anything about. -/
def Sound {α : Type} (answer : Except Failure α) : Prop :=
  ∀ failure, answer = .error failure →
    failure.kind = .validation ∨ failure.kind = .notFound ∨ failure.kind = .conflict

namespace Sound

variable {α β : Type}

theorem ok (a : α) : Sound (.ok a : Except Failure α) := by
  intro failure h
  cases h

theorem error {failure : Failure}
    (h : failure.kind = .validation ∨ failure.kind = .notFound ∨ failure.kind = .conflict) :
    Sound (.error failure : Except Failure α) := by
  intro found hfound
  cases hfound
  exact h

theorem map {answer : Except Failure α} (h : Sound answer) (f : α → β) : Sound (answer.map f) := by
  cases answer with
  | ok a => exact .ok (f a)
  | error failure => exact .error (h failure rfl)

end Sound

/-! ## Rows that are read -/

namespace Store

/-- The table allows the row, and it is read. -/
structure OrderRow.Readable (row : OrderRow) : Prop where
  allowed : row.satisfiesCheck = true
  fits : 0 ≤ row.caseId ∧ row.caseId ≤ maxInteger
  read : ∃ order, row.toOrder = .ok order

/-- The table allows the row, and it is read. -/
structure RevisionRow.Readable (row : RevisionRow) : Prop where
  allowed : row.satisfiesCheck = true
  fits : ∃ caseId, row.caseId = some caseId ∧ 0 ≤ caseId ∧ caseId ≤ maxInteger
  read : ∃ revision, row.toRevision = .ok revision

theorem fits_number (caseId : CaseId) :
    (0 : Int) ≤ caseId.number ∧ (caseId.number : Int) ≤ maxInteger := by
  have hle : caseId.number ≤ 9999999999999999 := Nat.le_of_lt_succ caseId.number_lt
  simp only [maxInteger]
  omega

theorem OrderRow.Readable.ofOrder (order : Order) : (OrderRow.ofOrder order).Readable where
  allowed := satisfiesCheck_of_caseId rfl
  fits := fits_number order.caseId
  read := ⟨order, OrderRow.toOrder_ofOrder order⟩

theorem RevisionRow.Readable.ofSnapshot (number : Int) (change : ChangeType) (time : Timestamp)
    (order : Order) : (RevisionRow.ofSnapshot number change time order).Readable where
  allowed := Trail.satisfiesCheck_ofSnapshot ..
  fits := ⟨order.caseId.number, rfl, fits_number order.caseId⟩
  read := ⟨_, RevisionRow.toRevision_ofSnapshot ..⟩

end Store

namespace Service

namespace OrderCall

/-! ## What calls take from outside -/

/-- The revisions that a call appends to the trail. A deletion appends one for each order that
its keys select, even if some of the keys select none. -/
def appended (orders : List Order) : OrderCall → Nat
  | create request identity _ _ =>
      match request.read, identity with
      | .ok fields, .ok name => if Text.isBlank name ∨ PairHeld orders fields then 0 else 1
      | _, _ => 0
  | update request _ =>
      match request.read with
      | .ok (id, fields) =>
          if (∃ order ∈ orders, order.id = id) ∧
            ¬ PairHeld (orders.filter fun other => other.id ≠ id) fields then 1 else 0
      | .error _ => 0
  | delete request _ =>
      match OrderFilter.resolve request.ids request.caseIds with
      | .ok filter => (orders.filter filter.wants).length
      | .error _ => 0
  | get _ | history _ | query _ => 0

/-- The caller of a creation is known, and its id is not that of a live order. -/
def Identified (orders : List Order) : OrderCall → Prop
  | create _ identity fresh _ => (∃ name, identity = .ok name) ∧ ∀ order ∈ orders, order.id ≠ fresh
  | _ => True

/-- What a call takes from outside is there, with numbers for the revisions that it appends. -/
structure Provided (orders : List Order) (trail : Trail) (call : OrderCall) : Prop where
  identified : call.Identified orders
  room : trail.last + call.appended orders ≤ maxInteger

/-! ## Calls on a ledger -/

section OnLedger

variable {ledger : Ledger}

theorem sound_createOrder {fields : OrderFields} {name : String} {fresh : OrderId}
    (hunused : ∀ order ∈ ledger.orders, order.id ≠ fresh)
    (hroom : Text.isBlank name = false → ¬ PairHeld ledger.orders fields →
      ledger.trail.next ≤ maxInteger) (clock : Clock) :
    Sound (createOrder fields name fresh clock ledger.database).1 := by
  cases hvalid : fields.validate with
  | error error =>
      rw [createOrder_of_invalid hvalid]
      exact .error (.inl (OrderFields.kind_of_validate hvalid))
  | ok valid =>
      cases hname : Text.isBlank name with
      | true =>
          rw [createOrder_of_nameless hvalid hname]
          exact .error (.inl rfl)
      | false =>
          by_cases hheld : PairHeld ledger.orders fields
          · rw [Ledger.createOrder_conflict hvalid hname hheld]
            exact .error (.inr (.inr rfl))
          · rw [Ledger.createOrder_done hvalid hname hheld hunused (hroom hname hheld)]
            exact .ok _

theorem sound_updateOrder {id : OrderId} {fields : OrderFields} (hkept : ledger.WellKept)
    (hroom : (∃ order ∈ ledger.orders, order.id = id) →
      ¬ PairHeld (ledger.orders.filter fun other => other.id ≠ id) fields →
      ledger.trail.next ≤ maxInteger) (clock : Clock) :
    Sound (updateOrder id fields clock ledger.database).1 := by
  cases hvalid : fields.validate with
  | error error =>
      rw [updateOrder_of_invalid hvalid]
      exact .error (.inl (OrderFields.kind_of_validate hvalid))
  | ok valid =>
      by_cases hlive : ∃ order ∈ ledger.orders, order.id = id
      · have hnext := hroom hlive
        obtain ⟨order, horder, rfl⟩ := hlive
        by_cases hheld : PairHeld (ledger.orders.filter fun other => other.id ≠ order.id) fields
        · rw [Ledger.updateOrder_conflict hvalid hkept horder hheld]
          exact .error (.inr (.inr rfl))
        · rw [Ledger.updateOrder_done hvalid hkept horder hheld (hnext hheld)]
          exact .ok _
      · have hunused : ∀ order ∈ ledger.orders, order.id ≠ id :=
          fun order horder hid => hlive ⟨order, horder, hid⟩
        rw [Ledger.updateOrder_missing hvalid hunused]
        exact .error (.inr (.inl rfl))

theorem sound_deleteOrders {request : DeleteRequest} (hkept : ledger.WellKept)
    (hroom : ∀ filter, OrderFilter.resolve request.ids request.caseIds = .ok filter →
      ledger.trail.last + (ledger.orders.filter filter.wants).length ≤ maxInteger)
    (clock : Clock) : Sound (deleteOrders request clock ledger.database).1 := by
  cases hresolve : OrderFilter.resolve request.ids request.caseIds with
  | error error =>
      rw [deleteOrders_of_unresolved hresolve]
      exact .error (.inl (OrderFilter.kind_of_resolve hresolve))
  | ok filter =>
      by_cases hanswered : filter.Answered ledger.orders
      · rw [Ledger.deleteOrders_done hresolve (hroom filter hresolve) hkept hanswered]
        exact .ok _
      · obtain ⟨detail, hdelete⟩ :=
          Ledger.deleteOrders_missing hresolve (hroom filter hresolve) hanswered clock
        rw [hdelete]
        exact .error (.inr (.inl rfl))

theorem sound_foundOrder (ledger : Ledger) (id : OrderId) :
    Sound (foundOrder id ledger.database).1 := by
  rw [foundOrder, Steps.bind_of_ok (Ledger.getOrder_database ledger id)]
  cases ledger.orders.find? (fun order => order.id = id) with
  | none => exact .error (.inr (.inl rfl))
  | some order => exact .ok order

theorem sound_foundHistory (hkept : ledger.WellKept) (id : OrderId) :
    Sound (foundHistory id ledger.database).1 := by
  rw [foundHistory, Steps.bind_of_ok (hkept.revisionsOf_database id)]
  cases ledger.history id with
  | nil => exact .error (.inr (.inl rfl))
  | cons revision revisions => exact .ok _

theorem kind_of_refused {call : OrderCall} {failure : Failure} {orders : List Order}
    (hidentified : call.Identified orders) (h : call.session = .error failure) :
    failure.kind = .validation := by
  cases call with
  | create request identity fresh clock =>
      obtain ⟨⟨name, rfl⟩, _⟩ := hidentified
      rw [session] at h
      split at h
      next => cases h
      next error hread =>
        cases h
        exact OrderRequest.kind_of_read hread
  | update request clock =>
      rw [session] at h
      split at h
      next => cases h
      next error hread =>
        cases h
        exact UpdateRequest.kind_of_read hread
  | get text =>
      rw [session] at h
      split at h
      next => cases h
      next error hread =>
        cases h
        exact kind_of_readId hread
  | history text =>
      rw [session] at h
      split at h
      next => cases h
      next error hread =>
        cases h
        exact kind_of_readId hread
  | query request =>
      rw [session] at h
      split at h
      next => cases h
      next error hread =>
        cases h
        exact kind_of_readQuery hread
  | delete request clock => cases h

theorem sound_session (hkept : ledger.WellKept) {call : OrderCall}
    (hprovided : call.Provided ledger.orders ledger.trail) {session : Session Reply}
    (h : call.session = .ok session) : Sound (session ledger.database).1 := by
  obtain ⟨hidentified, hroom⟩ := hprovided
  cases asks_of_session h with
  | create hread name fresh clock =>
      rw [Steps.map_apply]
      refine (sound_createOrder hidentified.2 ?_ clock).map _
      intro hname hfree
      simp only [appended, hread] at hroom
      rw [if_neg (by simp [hname, hfree])] at hroom
      exact hroom
  | update hread clock =>
      rw [Steps.map_apply]
      refine (sound_updateOrder hkept ?_ clock).map _
      intro hlive hfree
      simp only [appended, hread] at hroom
      rw [if_pos ⟨hlive, hfree⟩] at hroom
      exact hroom
  | get _ =>
      rw [Steps.map_apply]
      exact (sound_foundOrder ledger _).map _
  | history _ =>
      rw [Steps.map_apply]
      exact (sound_foundHistory hkept _).map _
  | @query _ filter _ hread =>
      obtain ⟨found, hquery⟩ := Ledger.exists_queryOrders filter (of_readQuery hread).2 ledger
      rw [Steps.map_apply, hquery]
      exact .ok _
  | delete request clock =>
      rw [Steps.map_apply]
      refine (sound_deleteOrders hkept ?_ clock).map _
      intro filter hresolve
      simpa only [appended, hresolve] using hroom

end OnLedger

/-! ## Runs of calls -/

section Reach

variable {disk : Disk} {path : String} {file : DatabaseFile} {db : Database}

/-- The database is one that changes of the orders can leave, once it is migrated. -/
def Reached (db : Database) : Prop :=
  ∃ mutations, Store.migrate db = (.ok (), (Run.of mutations).database)

theorem reached_of_run (mutations : List Mutation) : Reached (Run.of mutations).database := by
  obtain ⟨ledger, hkeeps⟩ := Run.exists_ledger mutations
  refine ⟨mutations, ?_⟩
  rw [hkeeps.database_eq]
  rfl

theorem reached_empty : Reached .empty :=
  ⟨[], rfl⟩

theorem reached_session {call : OrderCall} {session : Session Reply}
    (h : call.session = .ok session) (mutations : List Mutation) :
    Reached (session (Run.of mutations).database).2 := by
  rcases left_by_session h with hreads | ⟨mutation, hwrites⟩
  · rw [hreads]
    exact reached_of_run mutations
  · -- The change is the next one of the run that the database is the result of.
    have hnext := reached_of_run (mutations ++ [mutation])
    rw [Run.of_append_singleton, Run.database_step] at hnext
    rw [hwrites]
    exact hnext

/-- Whatever a path leads to can be left by calls. -/
def Healthy (disk : Disk) (path : String) : Prop :=
  ∀ file db, disk.openDatabase path = .ok (file, db) → Reached db

theorem Reached.keeps {left : Database} (h : Reached left) (file : DatabaseFile) :
    Reached (file.keeps left) := by
  rw [DatabaseFile.keeps]
  cases file.place with
  | none => exact reached_empty
  | some place => exact h

/-- A call leaves the files alone or leaves the database in its file. -/
theorem left_by_perform (hhealthy : Healthy disk path) (call : OrderCall) :
    (call.perform path disk).2 = disk ∨
      ∃ file db left, disk.openDatabase path = .ok (file, db) ∧ Reached left ∧
        (call.perform path disk).2 = disk.afterUse file left := by
  rw [perform_apply]
  cases hsession : call.session with
  | error failure => exact .inl rfl
  | ok session =>
      cases hopen : disk.openDatabase path with
      | error failure =>
          refine .inl ?_
          simp only [onMigrated_of_refused hopen]
      | ok opened =>
          obtain ⟨file, db⟩ := opened
          obtain ⟨mutations, hmigrate⟩ := hhealthy file db hopen
          refine .inr ⟨file, db, _, rfl, reached_session hsession mutations, ?_⟩
          simp only [onMigrated_of_migrated hopen hmigrate]

theorem Healthy.perform (hhealthy : Healthy disk path) (call : OrderCall) :
    Healthy (call.perform path disk).2 path := by
  rcases left_by_perform hhealthy call with hsame | ⟨file, db, left, hopen, hleft, hafter⟩
  · rwa [hsame]
  · rw [hafter]
    intro again kept hagain
    rw [((Disk.leaves_afterUse hopen left).eq_of_openDatabase hopen hagain).1]
    exact hleft.keeps file

theorem Healthy.perform_steady (hhealthy : Healthy disk path) (hsteady : disk.Steady path)
    (hopen : ∃ opened, disk.openDatabase path = .ok opened) (call : OrderCall) :
    (call.perform path disk).2.Steady path ∧
      ∃ opened, (call.perform path disk).2.openDatabase path = .ok opened := by
  rcases left_by_perform hhealthy call with hsame | ⟨file, db, left, hopen, _, hafter⟩
  · rw [hsame]
    exact ⟨hsteady, hopen⟩
  · have hleaves := Disk.leaves_afterUse hopen left
    rw [hafter]
    obtain ⟨again, hagain⟩ := hleaves.exists_openDatabase hopen hsteady
    exact ⟨hleaves.steady hopen hsteady, _, hagain⟩

theorem Healthy.run (hhealthy : Healthy disk path) (calls : List OrderCall) :
    Healthy (run path calls disk) path := by
  induction calls generalizing disk with
  | nil => exact hhealthy
  | cons call calls ih => exact ih (hhealthy.perform call)

theorem Healthy.run_opens (hhealthy : Healthy disk path) (hsteady : disk.Steady path)
    (hopen : ∃ opened, disk.openDatabase path = .ok opened) (calls : List OrderCall) :
    ∃ opened, (OrderCall.run path calls disk).openDatabase path = .ok opened := by
  induction calls generalizing disk with
  | nil => exact hopen
  | cons call calls ih =>
      obtain ⟨hsteady', hopen'⟩ := hhealthy.perform_steady hsteady hopen call
      exact ih (hhealthy.perform call) hsteady' hopen'

theorem healthy_of_empty (hempty : disk.openDatabase path = .ok (file, .empty)) :
    Healthy disk path := by
  intro again db hagain
  rw [hempty] at hagain
  cases hagain
  exact reached_empty

end Reach

/-- Counting the removed orders never comes out wrong. -/
theorem cause_of_delete {ledger : Ledger} (hkept : ledger.WellKept) {request : DeleteRequest}
    {clock : Clock} {failure : Failure}
    (h : (deleteOrders request clock ledger.database).1 = .error failure)
    (deleted matched : Nat) : failure.cause ≠ .fault (.countMismatch deleted matched) := by
  cases hresolve : OrderFilter.resolve request.ids request.caseIds with
  | error error =>
      rw [deleteOrders_of_unresolved hresolve] at h
      cases h
      exact Cause.noConfusion
  | ok filter =>
      by_cases hroom : ledger.trail.last + (ledger.orders.filter filter.wants).length ≤ maxInteger
      · by_cases hanswered : filter.Answered ledger.orders
        · rw [Ledger.deleteOrders_done hresolve hroom hkept hanswered] at h
          cases h
        · obtain ⟨detail, hdelete⟩ :=
            Ledger.deleteOrders_missing hresolve hroom hanswered clock
          rw [hdelete] at h
          cases h
          exact Cause.noConfusion
      · obtain ⟨found, hdelete, hcause⟩ :=
          Ledger.deleteOrders_exhausted hresolve hkept hroom clock
        rw [hdelete] at h
        cases h
        rw [hcause]
        intro hsame
        cases hsame

end OrderCall

/-- Whatever calls about orders a new database went through, it is opened again, and whatever
the path then leads to is migrated, its rows are allowed and read, and a call that gets what it
takes from outside succeeds or fails for a reason that its caller can change. A deletion never
finds that it removed another number of orders than it selected. -/
theorem calls_never_fail_internally {start : Disk} {path : String} {file : DatabaseFile}
    (hnew : start.openDatabase path = .ok (file, .empty)) (calls : List OrderCall) :
    (start.Steady path →
      ∃ opened, (OrderCall.run path calls start).openDatabase path = .ok opened) ∧
    ∀ again db, (OrderCall.run path calls start).openDatabase path = .ok (again, db) →
      ∃ (orders : List Order) (trail : Trail) (migrated : Database),
        Store.migrate db = (.ok (), migrated) ∧
        migrated.Holds (orders.map OrderRow.ofOrder) trail ∧
        (∀ order ∈ orders, (OrderRow.ofOrder order).Readable) ∧
        (∀ row ∈ trail.rows, row.Readable) ∧
        (∀ call : OrderCall, call.Provided orders trail →
          Sound (call.perform path (OrderCall.run path calls start)).1) ∧
        ∀ request clock failure deleted matched,
          (delete path request clock (OrderCall.run path calls start)).1 = .error failure →
          failure.cause ≠ .fault (.countMismatch deleted matched) := by
  have hhealthy := OrderCall.healthy_of_empty hnew
  refine ⟨fun hsteady => hhealthy.run_opens hsteady ⟨_, hnew⟩ calls, ?_⟩
  intro again db hopen
  obtain ⟨mutations, hmigrate⟩ := hhealthy.run calls again db hopen
  obtain ⟨ledger, hkeeps⟩ := Run.exists_ledger mutations
  have hkept := hkeeps.kept
  rw [hkeeps.database_eq] at hmigrate
  refine ⟨ledger.orders, ledger.trail, ledger.database, hmigrate, ledger.holds, ?_, ?_, ?_, ?_⟩
  · intro order _
    exact .ofOrder order
  · intro row hrow
    obtain ⟨entry, _, rfl⟩ := List.mem_map.mp hrow
    exact .ofSnapshot ..
  · intro call hprovided
    rw [OrderCall.perform_apply]
    cases hsession : call.session with
    | error failure => exact .error (.inl (OrderCall.kind_of_refused hprovided.identified hsession))
    | ok session =>
        simp only [onMigrated_of_migrated hopen hmigrate]
        exact OrderCall.sound_session hkept hprovided hsession
  · intro request clock failure deleted matched hfailed
    rw [delete, onMigrated_of_migrated hopen hmigrate] at hfailed
    exact OrderCall.cause_of_delete hkept hfailed deleted matched

def firstRequest : OrderRequest where
  effectiveFrom := some Sample.noon
  caseId := "6551341964128977"
  action := "Case Creation"
  responsibleParty := "The Payment Team"
  orderReference := "2026/1"

/-- On a disk without files an order is created, and can be got. -/
theorem calls_never_fail_internally_created :
    let calls := [OrderCall.create firstRequest (.ok "clerk") Sample.firstId Sample.clock]
    Disk.empty.openDatabase "orders.db" =
        .ok (⟨some ["orders.db"], some .empty, .blank, true, false⟩, .empty) ∧
      (∃ opened, (OrderCall.run "orders.db" calls .empty).openDatabase "orders.db" = .ok opened) ∧
      Sound ((OrderCall.get Sample.firstId.toText).perform "orders.db"
        (OrderCall.run "orders.db" calls .empty)).1 := by
  intro calls
  have hnew : Disk.empty.openDatabase "orders.db" =
      .ok (⟨some ["orders.db"], some .empty, .blank, true, false⟩, .empty) := by
    decide +kernel
  have hread : Location.ofText "orders.db" = .ok ⟨"orders.db", .create⟩ := by decide +kernel
  have hsteady := Disk.steady_of_not_mem hread (by decide +kernel) .empty
  have hopen : (OrderCall.run "orders.db" calls .empty).openDatabase "orders.db" =
      .ok (⟨some ["orders.db"], some Sample.oneOrder, .usual, false, false⟩, Sample.oneOrder) := by
    decide +kernel
  obtain ⟨hopens, hserves⟩ := calls_never_fail_internally hnew calls
  obtain ⟨orders, trail, migrated, hmigrate, hholds, _, _, hsound, _⟩ := hserves _ _ hopen
  refine ⟨hnew, hopens hsteady, hsound _ ⟨trivial, ?_⟩⟩
  cases hmigrate
  cases hholds.2
  change 1 + 0 ≤ maxInteger
  decide

end Service

end PaymentOrders
