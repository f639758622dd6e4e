import PaymentOrders.Proofs.Service.History
import PaymentOrders.Proofs.Store.Recorded
/-!
# Callers read what they wrote

A call that creates or changes an order answers the order that is then got, with the fields that
were asked for, and makes its history one revision longer. What callers learn of every other order
stays the same.
-/

namespace PaymentOrders

namespace Service

open Store

/-! ## Databases that are kept -/

/-- A path leads to a file, now and after it was used, and what is there is the database once it is
migrated. What is opened in memory is not kept. -/
structure Stored (path : String) (disk : Disk) (db : Database) : Prop where
  steady : disk.Steady path
  opens : ∃ file content, disk.openDatabase path = .ok (file, content) ∧ file.place ≠ none ∧
    Store.migrate content = (.ok (), db)

section Stored

variable {α : Type} {path : String} {disk : Disk} {db : Database}

/-- A session that succeeds on a stored database leaves a stored database. -/
theorem Stored.of_onMigrated (h : Stored path disk db) {session : Session α} {a : α} {left : Disk}
    (hdone : onMigrated path session disk = (.ok a, left))
    (hmigrated : ∀ after, session db = (.ok a, after) → Store.migrate after = (.ok (), after)) :
    ∃ after, session db = (.ok a, after) ∧ Stored path left after := by
  obtain ⟨hsteady, file, content, hopen, hplace, hmigrate⟩ := h
  rw [onMigrated_of_migrated hopen hmigrate] at hdone
  rcases hsession : session db with ⟨answer, after⟩
  rw [hsession] at hdone
  cases hdone
  have hleaves := Disk.leaves_afterUse hopen after
  have hkeeps : file.keeps after = after := by
    obtain ⟨place, hsome⟩ := Option.ne_none_iff_exists'.mp hplace
    rw [DatabaseFile.keeps, hsome]
  obtain ⟨again, hagain⟩ := hleaves.exists_openDatabase hopen hsteady
  rw [hkeeps] at hagain
  refine ⟨after, rfl, hleaves.steady hopen hsteady, again, after, hagain, ?_,
    hmigrated after hsession⟩
  rw [(hleaves.eq_of_openDatabase hopen hagain).2]
  exact hplace

theorem Stored.get_eq (h : Stored path disk db) (text : String) :
    (get path text disk).1 =
      match readId text with
      | .ok id => (OrderCall.foundOrder id db).1
      | .error error => .error (.ofError error) := by
  obtain ⟨_, file, content, hopen, _, hmigrate⟩ := h
  rw [OrderCall.get_apply]
  cases readId text with
  | error error => rfl
  | ok id => exact congrArg Prod.fst (onMigrated_of_migrated hopen hmigrate _)

theorem Stored.history_eq (h : Stored path disk db) (text : String) :
    (history path text disk).1 =
      match readId text with
      | .ok id => (OrderCall.foundHistory id db).1
      | .error error => .error (.ofError error) := by
  obtain ⟨_, file, content, hopen, _, hmigrate⟩ := h
  rw [OrderCall.history_apply]
  cases readId text with
  | error error => rfl
  | ok id => exact congrArg Prod.fst (onMigrated_of_migrated hopen hmigrate _)

theorem fst_foundOrder (id : OrderId) (db : Database) :
    (OrderCall.foundOrder id db).1 = (getOrder id db).1 >>= fun order? =>
      order?.elim (.error (unknownId id)) .ok := by
  rcases hget : getOrder id db with ⟨found, left⟩
  cases found with
  | error failure =>
      rw [OrderCall.foundOrder, Steps.bind_of_error hget]
      rfl
  | ok order? =>
      rw [OrderCall.foundOrder, Steps.bind_of_ok hget]
      cases order? <;> rfl

theorem fst_foundHistory (id : OrderId) (db : Database) :
    (OrderCall.foundHistory id db).1 = (revisionsOf id db).1 >>= fun revisions =>
      if revisions = [] then .error (unknownId id) else .ok revisions := by
  rcases hread : revisionsOf id db with ⟨found, left⟩
  cases found with
  | error failure =>
      rw [OrderCall.foundHistory, Steps.bind_of_error hread]
      rfl
  | ok revisions =>
      rw [OrderCall.foundHistory, Steps.bind_of_ok hread]
      cases revisions <;> rfl

end Stored

/-! ## What callers learn -/

/-- What is learned of a written order, and that of other orders the same is learned as before. -/
structure Learned (change : ChangeType) (order : Order) (old : List Revision) (path : String)
    (before after : Disk) : Prop where
  got : ∀ text, readId text = .ok order.id → (get path text after).1 = .ok order
  before_eq : ∀ text, readId text = .ok order.id → (history path text before).1 =
    if old = [] then .error (unknownId order.id) else .ok old
  after_eq : ∃ new : Revision, new.recordId = order.id ∧ new.changeType = change ∧
    new.snapshot = some order ∧ ∀ text, readId text = .ok order.id →
      (history path text after).1 = .ok (old ++ [new])
  others : ∀ text, readId text ≠ .ok order.id →
    (get path text after).1 = (get path text before).1 ∧
      (history path text after).1 = (history path text before).1

variable {path : String} {disk left : Disk} {db after : Database} {order : Order}

theorem learned_of_recorded {change : ChangeType} {old : List Revision} {new : Revision}
    (hbefore : Stored path disk db) (hafter : Stored path left after)
    (h : Recorded change order old new db after) : Learned change order old path disk left where
  got := by
    intro text hid
    rw [hafter.get_eq, hid]
    simp only [fst_foundOrder, h.found]
    rfl
  before_eq := by
    intro text hid
    rw [hbefore.history_eq, hid]
    simp only [fst_foundHistory, h.before_eq]
    rfl
  after_eq := by
    refine ⟨new, h.own, h.changeType_eq, h.snapshot_eq, fun text hid => ?_⟩
    have hne : old ++ [new] ≠ [] := by simp
    rw [hafter.history_eq, hid]
    simp only [fst_foundHistory, h.after_eq, Steps.bind_ok, if_neg hne]
  others := by
    intro text hother
    rw [hafter.get_eq, hbefore.get_eq, hafter.history_eq, hbefore.history_eq]
    cases hid : readId text with
    | error error => exact ⟨rfl, rfl⟩
    | ok id =>
        have hne : id ≠ order.id := by
          rintro rfl
          exact hother hid
        constructor
        · simp only [fst_foundOrder, h.others.order id hne]
        · simp only [fst_foundHistory, h.others.story id hne]

theorem create_of_ok {request : OrderRequest} {identity : Identity} {fresh : OrderId}
    {clock : Clock} (h : create path request identity fresh clock disk = (.ok order, left)) :
    ∃ fields name, request.read = .ok fields ∧ identity = .ok name ∧
      onMigrated path (createOrder fields name fresh clock) disk = (.ok order, left) := by
  rw [OrderCall.create_apply] at h
  cases hread : request.read with
  | error error =>
      rw [hread] at h
      cases h
  | ok fields =>
      rw [hread] at h
      cases identity with
      | error reason => cases h
      | ok name => exact ⟨fields, name, rfl, rfl, h⟩

theorem update_of_ok {request : UpdateRequest} {clock : Clock}
    (h : update path request clock disk = (.ok order, left)) :
    ∃ id fields, request.read = .ok (id, fields) ∧
      onMigrated path (updateOrder id fields clock) disk = (.ok order, left) := by
  rw [OrderCall.update_apply] at h
  cases hread : request.read with
  | error error =>
      rw [hread] at h
      cases h
  | ok read =>
      rw [hread] at h
      exact ⟨read.1, read.2, rfl, h⟩

/-! ## Runs -/

theorem migrate_run (calls : List Mutation) :
    Store.migrate (Run.of calls).database = (.ok (), (Run.of calls).database) := by
  obtain ⟨ledger, hkeeps⟩ := Run.exists_ledger calls
  rw [hkeeps.database_eq]
  exact migrate_database ledger

theorem migrate_performed (calls : List Mutation) {call : Mutation} {answer : Answer}
    (h : call.perform (Run.of calls).database = (.ok answer, after)) :
    Store.migrate after = (.ok (), after) := by
  have hnext := migrate_run (calls ++ [call])
  rwa [Run.of_append_singleton, Run.database_step, h] at hnext

section Run

variable {calls : List Mutation}

theorem createdAs_of_run {fields : OrderFields} {name : String} {fresh : OrderId} {clock : Clock}
    (h : createOrder fields name fresh clock (Run.of calls).database = (.ok order, after)) :
    CreatedAs fields name fresh order (Run.of calls).database after := by
  obtain ⟨ledger, hkeeps⟩ := Run.exists_ledger calls
  rw [hkeeps.database_eq] at h ⊢
  exact createdAs_of_createOrder hkeeps.kept h

theorem modifiedAs_of_run {id : OrderId} {fields : OrderFields} {clock : Clock}
    (h : updateOrder id fields clock (Run.of calls).database = (.ok order, after)) :
    ModifiedAs id fields order (Run.of calls).database after := by
  obtain ⟨ledger, hkeeps⟩ := Run.exists_ledger calls
  rw [hkeeps.database_eq] at h ⊢
  exact modifiedAs_of_updateOrder hkeeps.kept h

variable (hstored : Stored path disk (Run.of calls).database)

include hstored

theorem learned_of_create {request : OrderRequest} {identity : Identity} {fresh : OrderId}
    {clock : Clock} (h : create path request identity fresh clock disk = (.ok order, left)) :
    request.AsksFor order.fields ∧ Learned .created order [] path disk left := by
  obtain ⟨fields, name, hread, hname, hdone⟩ := create_of_ok h
  obtain ⟨after, hcreate, hleft⟩ := hstored.of_onMigrated hdone fun after hcreate => by
    have hperform : (Mutation.create fields name fresh clock).perform (Run.of calls).database =
        (.ok (.created order), after) := Steps.map_of_ok hcreate
    exact migrate_performed calls hperform
  have hcreated := createdAs_of_run hcreate
  obtain ⟨new, hrecorded⟩ := hcreated.recorded
  rw [hcreated.fields_eq]
  exact ⟨OrderRequest.asksFor_of_read hread, learned_of_recorded hstored hleft hrecorded⟩

theorem learned_of_update {request : UpdateRequest} {clock : Clock}
    (h : update path request clock disk = (.ok order, left)) :
    readId request.id = .ok order.id ∧ request.order.AsksFor order.fields ∧
      (∃ previous, (get path request.id disk).1 = .ok previous ∧ previous.id = order.id ∧
        order.createdTimestamp = previous.createdTimestamp ∧
        order.createdBy = previous.createdBy) ∧
      ∃ old, Learned .modified order old path disk left := by
  obtain ⟨id, fields, hread, hdone⟩ := update_of_ok h
  obtain ⟨after, hupdate, hleft⟩ := hstored.of_onMigrated hdone fun after hupdate => by
    have hperform : (Mutation.update id fields clock).perform (Run.of calls).database =
        (.ok (.modified order), after) := Steps.map_of_ok hupdate
    exact migrate_performed calls hperform
  have hmodified := modifiedAs_of_run hupdate
  obtain ⟨hparse, hcarried⟩ := UpdateRequest.asksFor_of_read hread
  have hid : readId request.id = .ok order.id := by
    rw [readId, hparse, hmodified.id_eq]
    rfl
  obtain ⟨previous, hfound, hsame, htime, hname⟩ := hmodified.previous
  obtain ⟨old, new, hrecorded⟩ := hmodified.recorded
  rw [← hmodified.id_eq] at hfound hsame
  refine ⟨hid, ?_, ⟨previous, ?_, hsame, htime, hname⟩, old,
    learned_of_recorded hstored hleft hrecorded⟩
  · rw [hmodified.fields_eq]
    exact hcarried
  · rw [hstored.get_eq, hid]
    simp only [fst_foundOrder, hfound]
    rfl

end Run

/-- After any run, an order that a request creates or changes has the fields of the request and is
read as it was answered; its story is what it was before, nothing for a creation, and one revision
more with that order; an order that is changed keeps its id, its creator and when it was created;
and of every other order the same is read as before. Callers learn just that of a database that is
in a file. -/
theorem callers_read_their_writes (calls : List Mutation) :
    (∀ (request : OrderRequest) fields name fresh clock order after,
      request.read = .ok fields →
      createOrder fields name fresh clock (Run.of calls).database = (.ok order, after) →
      request.AsksFor order.fields ∧
        CreatedAs fields name fresh order (Run.of calls).database after) ∧
    (∀ (request : UpdateRequest) id fields clock order after,
      request.read = .ok (id, fields) →
      updateOrder id fields clock (Run.of calls).database = (.ok order, after) →
      request.order.AsksFor order.fields ∧
        ModifiedAs id fields order (Run.of calls).database after) ∧
    ∀ path disk, Stored path disk (Run.of calls).database →
      (∀ request identity fresh clock order left,
        create path request identity fresh clock disk = (.ok order, left) →
        request.AsksFor order.fields ∧ Learned .created order [] path disk left) ∧
      ∀ request clock order left, update path request clock disk = (.ok order, left) →
        readId request.id = .ok order.id ∧ request.order.AsksFor order.fields ∧
          (∃ previous, (get path request.id disk).1 = .ok previous ∧ previous.id = order.id ∧
            order.createdTimestamp = previous.createdTimestamp ∧
            order.createdBy = previous.createdBy) ∧
          ∃ old, Learned .modified order old path disk left := by
  refine ⟨?_, ?_, ?_⟩
  · intro request fields name fresh clock order after hread hcreate
    have hcreated := createdAs_of_run hcreate
    refine ⟨?_, hcreated⟩
    rw [hcreated.fields_eq]
    exact OrderRequest.asksFor_of_read hread
  · intro request id fields clock order after hread hupdate
    have hmodified := modifiedAs_of_run hupdate
    refine ⟨?_, hmodified⟩
    rw [hmodified.fields_eq]
    exact (UpdateRequest.asksFor_of_read hread).2
  · intro path disk hstored
    exact ⟨fun _ _ _ _ _ _ hcreate => learned_of_create hstored hcreate,
      fun _ _ _ _ hupdate => learned_of_update hstored hupdate⟩

/-- An evening west of Greenwich, with a fraction of a second. -/
def evening : Timestamp :=
  { Sample.noon with
    hour := 18, nanosecond := 123456789, offset := -330
    hour_le := by decide
    nanosecond_lt := by decide
    offset_le := by decide }

/-- The first order is changed by a text with a zero character and white space around it. -/
theorem callers_read_their_writes_updated :
    let disk : Disk := ⟨[(["orders.db"], .database Sample.oneOrder)]⟩
    let request : UpdateRequest := ⟨" 00000000000000000000000001",
      ⟨some evening, "6551341964128977", "\x00 Case\t", " The Payment Team ", "2026/1"⟩⟩
    let done := update "orders.db" request Sample.clock disk
    ∃ order, done.1 = .ok order ∧ order.action = "\x00 Case\t" ∧ order.effectiveFrom = evening ∧
      order.createdBy = "clerk" ∧
      (get "orders.db" "00000000000000000000000001" done.2).1 = .ok order ∧
      (get "orders.db" "00000000000000000000000002" done.2).1 =
        (get "orders.db" "00000000000000000000000002" disk).1 := by
  intro disk request done
  let calls := Sample.movedAway.take 1
  have hrun : (Run.of calls).database = Sample.oneOrder := rfl
  have hread : Location.ofText "orders.db" = .ok ⟨"orders.db", .create⟩ := by decide +kernel
  have hopen : disk.openDatabase "orders.db" =
      .ok (⟨some ["orders.db"], some Sample.oneOrder, .usual, false, false⟩, Sample.oneOrder) := by
    decide +kernel
  have hstored : Stored "orders.db" disk (Run.of calls).database :=
    ⟨Disk.steady_of_not_mem hread (by decide +kernel) disk, _, _, hopen, by simp, rfl⟩
  let order := Sample.firstOrder.apply
    ⟨evening, Sample.firstCase, "\x00 Case\t", " The Payment Team ", "2026/1"⟩
  have hdone : done.1 = .ok order := by decide +kernel
  obtain ⟨_, hupdates⟩ := (callers_read_their_writes calls).2.2 "orders.db" disk hstored
  obtain ⟨_, _, _, old, hlearned⟩ :=
    hupdates request Sample.clock order done.2 (Prod.ext hdone rfl)
  exact ⟨order, hdone, rfl, rfl, rfl, hlearned.got _ (by decide +kernel),
    (hlearned.others _ (by decide +kernel)).1⟩

end Service

end PaymentOrders
