import PaymentOrders.Proofs.Disk
import PaymentOrders.Proofs.Service.Requests
import PaymentOrders.Proofs.Store.Mutation
/-!
# Calls about orders

The six calls that are about orders, as one type with one way to perform them. A call is refused
before the database is opened, or it is one session on the database at the current schema version.
-/

namespace PaymentOrders.Service

open Store

/-- A call that is about orders, with what it takes from outside. -/
inductive OrderCall where
  | create (request : OrderRequest) (identity : Identity) (fresh : OrderId) (clock : Clock)
  | update (request : UpdateRequest) (clock : Clock)
  | get (id : String)
  | history (id : String)
  | query (request : QueryRequest)
  | delete (request : DeleteRequest) (clock : Clock)

inductive Reply where
  | order (order : Order)
  | history (revisions : List Revision)
  | page (page : Page Order)
  | deleted (summary : DeletionSummary)
  deriving DecidableEq

namespace OrderCall

def perform (path : String) : OrderCall → Call Reply
  | create request identity fresh clock =>
      Reply.order <$> Service.create path request identity fresh clock
  | update request clock => Reply.order <$> Service.update path request clock
  | get id => Reply.order <$> Service.get path id
  | history id => Reply.history <$> Service.history path id
  | query request => Reply.page <$> Service.query path request
  | delete request clock => Reply.deleted <$> Service.delete path request clock

/-- The files after some calls, one after the other, whether they succeed or not. -/
def run (path : String) (calls : List OrderCall) (disk : Disk) : Disk :=
  calls.foldl (fun disk call => (call.perform path disk).2) disk

def foundOrder (id : OrderId) : Session Order := do
  match ← getOrder id with
  | some order => return order
  | none => Session.fail (unknownId id)

def foundHistory (id : OrderId) : Session (List Revision) := do
  match ← revisionsOf id with
  | [] => Session.fail (unknownId id)
  | revisions => return revisions

/-- What a call asks of a database at the current schema version, or why it never comes to that. -/
def session : OrderCall → Except Failure (Session Reply)
  | create request identity fresh clock =>
      match request.read with
      | .ok fields =>
          match identity with
          | .ok name => .ok (Reply.order <$> createOrder fields name fresh clock)
          | .error failure => .error failure
      | .error error => .error (.ofError error)
  | update request clock =>
      match request.read with
      | .ok (id, fields) => .ok (Reply.order <$> updateOrder id fields clock)
      | .error error => .error (.ofError error)
  | get text =>
      match readId text with
      | .ok id => .ok (Reply.order <$> foundOrder id)
      | .error error => .error (.ofError error)
  | history text =>
      match readId text with
      | .ok id => .ok (Reply.history <$> foundHistory id)
      | .error error => .error (.ofError error)
  | query request =>
      match readQuery request with
      | .ok (filter, page) => .ok (Reply.page <$> queryOrders filter page)
      | .error error => .error (.ofError error)
  | delete request clock => .ok (Reply.deleted <$> deleteOrders request clock)

end OrderCall

section Perform

variable {α β : Type} {disk : Disk} {path : String} {file : DatabaseFile} {db db' : Database}
  {failure : Failure} {session : Session α}

theorem onMigrated_of_refused (hopen : disk.openDatabase path = .error failure)
    (session : Session α) : onMigrated path session disk = (.error failure, disk) := by
  rw [onMigrated, Call.onDatabase, hopen]

theorem onMigrated_of_failed (hopen : disk.openDatabase path = .ok (file, db))
    (hmigrate : Store.migrate db = (.error failure, db')) (session : Session α) :
    onMigrated path session disk = (.error failure, disk.afterUse file db') := by
  rw [onMigrated, Call.onDatabase, hopen]
  simp only [Steps.bind_of_error hmigrate]

theorem onMigrated_of_migrated (hopen : disk.openDatabase path = .ok (file, db))
    (hmigrate : Store.migrate db = (.ok (), db')) (session : Session α) :
    onMigrated path session disk =
      ((session db').1, disk.afterUse file (session db').2) := by
  rw [onMigrated, Call.onDatabase, hopen]
  simp only [Steps.bind_of_ok hmigrate]

/-- What is done without the files can be done while the database is still open. -/
theorem onMigrated_bind {after : α → Call β} {next : α → Session β}
    (answer : α → Except Failure β) (hafter : ∀ a disk, after a disk = (answer a, disk))
    (hnext : ∀ a db, next a db = (answer a, db)) (path : String) (session : Session α) :
    (onMigrated path session >>= after) = onMigrated path (session >>= next) := by
  funext disk
  cases hopen : disk.openDatabase path with
  | error failure =>
      rw [Steps.bind_of_error (onMigrated_of_refused hopen session), onMigrated_of_refused hopen]
  | ok opened =>
      obtain ⟨file, db⟩ := opened
      rcases hmigrate : Store.migrate db with ⟨migrated, db'⟩
      cases migrated with
      | error failure =>
          rw [Steps.bind_of_error (onMigrated_of_failed hopen hmigrate session),
            onMigrated_of_failed hopen hmigrate]
      | ok done =>
          have hfirst := onMigrated_of_migrated hopen hmigrate session
          rw [onMigrated_of_migrated hopen hmigrate]
          rcases hrun : session db' with ⟨found, left⟩
          rw [hrun] at hfirst
          cases found with
          | error failure => rw [Steps.bind_of_error hfirst, Steps.bind_of_error hrun]
          | ok a => rw [Steps.bind_of_ok hfirst, Steps.bind_of_ok hrun, hafter, hnext]

theorem map_onMigrated (f : α → β) (path : String) (session : Session α) :
    f <$> onMigrated path session = onMigrated path (f <$> session) := by
  rw [← bind_pure_comp, ← bind_pure_comp]
  exact onMigrated_bind (fun a => .ok (f a)) (fun _ _ => rfl) (fun _ _ => rfl) path session

theorem map_of_onMigrated {call : Call α} (h : call disk = onMigrated path session disk)
    (f : α → β) : (f <$> call) disk = onMigrated path (f <$> session) disk := by
  rw [← map_onMigrated, Steps.map_apply, Steps.map_apply, h]

theorem demand_of_ok {value : Except OrderError α} {a : α} (h : value = .ok a) (disk : Disk) :
    Call.demand value disk = (.ok a, disk) := by
  rw [h]
  rfl

theorem demand_of_error {value : Except OrderError α} {error : OrderError}
    (h : value = .error error) (disk : Disk) :
    Call.demand value disk = (.error (.ofError error), disk) := by
  rw [h]
  rfl

end Perform

namespace OrderCall

variable (path : String) (disk : Disk)

theorem create_apply (request : OrderRequest) (identity : Identity) (fresh : OrderId)
    (clock : Clock) :
    Service.create path request identity fresh clock disk =
      match request.read with
      | .ok fields =>
          match identity with
          | .ok name => onMigrated path (createOrder fields name fresh clock) disk
          | .error failure => (.error failure, disk)
      | .error error => (.error (.ofError error), disk) := by
  rw [Service.create]
  cases hread : request.read with
  | error error => rw [Steps.bind_of_error (demand_of_error rfl disk)]
  | ok fields =>
      rw [Steps.bind_of_ok (demand_of_ok rfl disk)]
      cases identity <;> rfl

theorem update_apply (request : UpdateRequest) (clock : Clock) :
    Service.update path request clock disk =
      match request.read with
      | .ok (id, fields) => onMigrated path (updateOrder id fields clock) disk
      | .error error => (.error (.ofError error), disk) := by
  rw [Service.update]
  cases hread : request.read with
  | error error => rw [Steps.bind_of_error (demand_of_error rfl disk)]
  | ok read => rw [Steps.bind_of_ok (demand_of_ok rfl disk)]

theorem get_apply (text : String) :
    Service.get path text disk =
      match readId text with
      | .ok id => onMigrated path (foundOrder id) disk
      | .error error => (.error (.ofError error), disk) := by
  rw [Service.get]
  cases hread : readId text with
  | error error => rw [Steps.bind_of_error (demand_of_error rfl disk)]
  | ok id =>
      rw [Steps.bind_of_ok (demand_of_ok rfl disk)]
      refine congrFun (onMigrated_bind (fun order? => order?.elim (.error (unknownId id)) .ok)
        ?_ ?_ path (getOrder id)) disk
      · intro order? disk
        cases order? <;> rfl
      · intro order? db
        cases order? <;> rfl

theorem history_apply (text : String) :
    Service.history path text disk =
      match readId text with
      | .ok id => onMigrated path (foundHistory id) disk
      | .error error => (.error (.ofError error), disk) := by
  rw [Service.history]
  cases hread : readId text with
  | error error => rw [Steps.bind_of_error (demand_of_error rfl disk)]
  | ok id =>
      rw [Steps.bind_of_ok (demand_of_ok rfl disk)]
      refine congrFun (onMigrated_bind
        (fun revisions => if revisions = [] then .error (unknownId id) else .ok revisions)
        ?_ ?_ path (revisionsOf id)) disk
      · intro revisions disk
        cases revisions <;> rfl
      · intro revisions db
        cases revisions <;> rfl

theorem query_apply (request : QueryRequest) :
    Service.query path request disk =
      match readQuery request with
      | .ok (filter, page) => onMigrated path (queryOrders filter page) disk
      | .error error => (.error (.ofError error), disk) := by
  rw [Service.query, readQuery]
  cases hfilter : OrderFilter.resolve request.ids request.caseIds with
  | error error =>
      rw [Steps.bind_of_error (demand_of_error rfl disk)]
      rfl
  | ok filter =>
      rw [Steps.bind_of_ok (demand_of_ok rfl disk), Steps.bind_ok]
      cases hpage : PageRequest.make (request.page.getD 0)
          (request.size.getD PageRequest.defaultSize) with
      | error error =>
          rw [Steps.bind_of_error (demand_of_error rfl disk)]
          rfl
      | ok page =>
          rw [Steps.bind_of_ok (demand_of_ok rfl disk)]
          rfl

/-- A call ends before the database is opened, or is a session on the migrated database. -/
theorem perform_apply (call : OrderCall) :
    call.perform path disk =
      match call.session with
      | .error failure => (.error failure, disk)
      | .ok session => onMigrated path session disk := by
  cases call with
  | create request identity fresh clock =>
      have happly := create_apply path disk request identity fresh clock
      rw [session]
      cases hread : request.read with
      | error error =>
          rw [hread] at happly
          exact Steps.map_of_error happly
      | ok fields =>
          rw [hread] at happly
          cases identity with
          | error reason => exact Steps.map_of_error happly
          | ok name => exact map_of_onMigrated happly Reply.order
  | update request clock =>
      have happly := update_apply path disk request clock
      rw [session]
      cases hread : request.read with
      | error error =>
          rw [hread] at happly
          exact Steps.map_of_error happly
      | ok read =>
          rw [hread] at happly
          exact map_of_onMigrated happly Reply.order
  | get text =>
      have happly := get_apply path disk text
      rw [session]
      cases hread : readId text with
      | error error =>
          rw [hread] at happly
          exact Steps.map_of_error happly
      | ok id =>
          rw [hread] at happly
          exact map_of_onMigrated happly Reply.order
  | history text =>
      have happly := history_apply path disk text
      rw [session]
      cases hread : readId text with
      | error error =>
          rw [hread] at happly
          exact Steps.map_of_error happly
      | ok id =>
          rw [hread] at happly
          exact map_of_onMigrated happly Reply.history
  | query request =>
      have happly := query_apply path disk request
      rw [session]
      cases hread : readQuery request with
      | error error =>
          rw [hread] at happly
          exact Steps.map_of_error happly
      | ok read =>
          rw [hread] at happly
          exact map_of_onMigrated happly Reply.page
  | delete request clock => exact map_of_onMigrated rfl Reply.deleted

theorem readOnly_foundOrder (id : OrderId) : (foundOrder id).ReadOnly := by
  apply Session.ReadOnly.bind
  · apply (Session.readOnly_read _).bind
    intro row?
    cases row? with
    | none => exact fun _ => rfl
    | some row => exact Session.readOnly_read _
  · intro order?
    cases order? <;> exact fun _ => rfl

theorem readOnly_foundHistory (id : OrderId) : (foundHistory id).ReadOnly := by
  apply (Session.readOnly_read _).bind
  intro revisions
  cases revisions <;> exact fun _ => rfl

theorem readOnly_queryOrders (filter : OrderFilter) (page : PageRequest) :
    (queryOrders filter page).ReadOnly := by
  apply (Session.readOnly_demand _).bind
  intro offset
  split
  · exact fun _ => rfl
  · apply Session.ReadOnly.bind
    · exact fun _ => rfl
    · intro total
      exact (Session.readOnly_read _).bind fun _ _ => rfl

/-- The sessions that calls come to, each with what its request was read as. -/
inductive Asks : OrderCall → Session Reply → Prop where
  | create {request : OrderRequest} {fields : OrderFields} (hread : request.read = .ok fields)
      (name : String) (fresh : OrderId) (clock : Clock) :
      Asks (.create request (.ok name) fresh clock)
        (Reply.order <$> createOrder fields name fresh clock)
  | update {request : UpdateRequest} {id : OrderId} {fields : OrderFields}
      (hread : request.read = .ok (id, fields)) (clock : Clock) :
      Asks (.update request clock) (Reply.order <$> updateOrder id fields clock)
  | get {text : String} {id : OrderId} (hread : readId text = .ok id) :
      Asks (.get text) (Reply.order <$> foundOrder id)
  | history {text : String} {id : OrderId} (hread : readId text = .ok id) :
      Asks (.history text) (Reply.history <$> foundHistory id)
  | query {request : QueryRequest} {filter : OrderFilter} {page : PageRequest}
      (hread : readQuery request = .ok (filter, page)) :
      Asks (.query request) (Reply.page <$> queryOrders filter page)
  | delete (request : DeleteRequest) (clock : Clock) :
      Asks (.delete request clock) (Reply.deleted <$> deleteOrders request clock)

theorem asks_of_session {call : OrderCall} {session : Session Reply}
    (h : call.session = .ok session) : Asks call session := by
  cases call with
  | create request identity fresh clock =>
      rw [OrderCall.session] at h
      split at h
      next fields hread =>
        split at h
        next name =>
          cases h
          exact .create hread name fresh clock
        next => cases h
      next => cases h
  | update request clock =>
      rw [OrderCall.session] at h
      split at h
      next id fields hread =>
        cases h
        exact .update hread clock
      next => cases h
  | get text =>
      rw [OrderCall.session] at h
      split at h
      next id hread =>
        cases h
        exact .get hread
      next => cases h
  | history text =>
      rw [OrderCall.session] at h
      split at h
      next id hread =>
        cases h
        exact .history hread
      next => cases h
  | query request =>
      rw [OrderCall.session] at h
      split at h
      next filter page hread =>
        cases h
        exact .query hread
      next => cases h
  | delete request clock =>
      cases h
      exact .delete request clock

/-- A call leaves the database as it was or as a change of the orders leaves it. -/
theorem left_by_session {call : OrderCall} {session : Session Reply}
    (h : call.session = .ok session) :
    session.ReadOnly ∨ ∃ mutation : Mutation, ∀ db, (session db).2 = (mutation.perform db).2 := by
  cases asks_of_session h with
  | @create _ fields _ name fresh clock =>
      refine .inr ⟨.create fields name fresh clock, fun db => ?_⟩
      change _ = ((Answer.created <$> createOrder fields name fresh clock) db).2
      rw [Steps.map_apply, Steps.map_apply]
  | @update _ id fields _ clock =>
      refine .inr ⟨.update id fields clock, fun db => ?_⟩
      change _ = ((Answer.modified <$> updateOrder id fields clock) db).2
      rw [Steps.map_apply, Steps.map_apply]
  | @get _ id _ => exact .inl ((readOnly_foundOrder id).map _)
  | @history _ id _ => exact .inl ((readOnly_foundHistory id).map _)
  | @query _ filter page _ => exact .inl ((readOnly_queryOrders filter page).map _)
  | delete request clock =>
      refine .inr ⟨.delete request clock, fun db => ?_⟩
      change _ = ((Answer.deleted <$> deleteOrders request clock) db).2
      rw [Steps.map_apply, Steps.map_apply]

end OrderCall

end PaymentOrders.Service
