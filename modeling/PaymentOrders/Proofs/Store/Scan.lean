import PaymentOrders.Proofs.Store.Orders
import PaymentOrders.Proofs.Store.Unreadable
import PaymentOrders.Store.Deletion
/-!
# What sessions read

A session that works on orders reads some of the rows, one after the other, whoever wrote them.
The first one that is not read ends it; if all are read, nothing that stops the session later is
blamed on the request.
-/

namespace PaymentOrders

/-- The answer does not say that the request is wrong. -/
def Blameless {α : Type} (answer : Except Failure α) : Prop :=
  ∀ failure, answer = .error failure → failure.kind ≠ .validation

namespace Blameless

variable {α β : Type}

theorem ok (a : α) : Blameless (.ok a) := by
  intro failure h
  cases h

theorem error {failure : Failure} (h : failure.kind ≠ .validation) :
    Blameless (.error failure : Except Failure α) := by
  intro found hfound
  cases hfound
  exact h

theorem fault (contexts : List Context) (fault : Fault) :
    Blameless (.error ⟨contexts, .fault fault⟩ : Except Failure α) :=
  .error fun hkind => by cases hkind

theorem bind {answer : Except Failure α} {next : α → Except Failure β} (h : Blameless answer)
    (hnext : ∀ a, Blameless (next a)) : Blameless (answer >>= next) := by
  cases answer with
  | ok a => exact hnext a
  | error failure => exact .error (h failure rfl)

theorem map {answer : Except Failure α} (h : Blameless answer) (f : α → β) :
    Blameless (answer.map f) := by
  cases answer with
  | ok a => exact .ok (f a)
  | error failure => exact .error (h failure rfl)

theorem mapError {answer : Except Failure α} (h : Blameless answer) {f : Failure → Failure}
    (hf : ∀ failure, failure.kind ≠ .validation → (f failure).kind ≠ .validation) :
    Blameless (answer.mapError f) := by
  cases answer with
  | ok a => exact .ok a
  | error failure => exact .error (hf failure (h failure rfl))

end Blameless

namespace Store

inductive StoredRow where
  | order (row : OrderRow)
  | revision (row : RevisionRow)
  deriving DecidableEq

namespace StoredRow

def failure? : StoredRow → Option Failure
  | order row => Steps.error? row.toOrder
  | revision row => Steps.error? row.toRevision

def isUnread (row : StoredRow) : Bool :=
  row.failure?.isSome

/-- What stands before the case id of the row is read, and the case id is none. -/
def Misnumbered : StoredRow → Prop
  | order row => row.Misnumbered
  | revision row => row.Misnumbered

theorem kind_of_failure? {row : StoredRow} {failure : Failure} (h : row.failure? = some failure) :
    row.Misnumbered ∧ failure.kind = .validation ∨
      ¬ row.Misnumbered ∧ failure.kind = .fatal := by
  cases row with
  | order row => exact OrderRow.kind_of_toOrder (Steps.error?_eq_some.mp h)
  | revision row => exact RevisionRow.kind_of_toRevision (Steps.error?_eq_some.mp h)

theorem findSome?_failure? (rows : List StoredRow) :
    rows.findSome? failure? = (rows.find? isUnread).bind failure? := by
  induction rows with
  | nil => rfl
  | cons row rows ih =>
      rw [List.findSome?_cons, List.find?_cons, ih, isUnread]
      cases hrow : row.failure? with
      | none => rfl
      | some failure => exact hrow.symm

end StoredRow

namespace Session

variable {α β : Type}

/-- Wherever the session starts, its answer does not say that the request is wrong. -/
def Blameless (session : Session α) : Prop :=
  ∀ db, PaymentOrders.Blameless (session db).1

theorem blameless_write {statement : Database → Except Failure (α × Database)}
    (h : ∀ db, PaymentOrders.Blameless (statement db)) : (write statement).Blameless := by
  intro db
  have hdb := h db
  unfold write
  split
  · exact .ok _
  next failure hfailure =>
    exact .error (hdb failure hfailure)

theorem Blameless.bind {first : Session α} {next : α → Session β} (h : first.Blameless)
    (hnext : ∀ a, (next a).Blameless) : (first >>= next).Blameless := by
  intro db
  have hdb := h db
  rcases hrun : first db with ⟨answer, after⟩
  rw [hrun] at hdb
  cases answer with
  | error failure =>
      rw [Steps.bind_of_error hrun]
      exact .error (hdb failure rfl)
  | ok a =>
      rw [Steps.bind_of_ok hrun]
      exact hnext a after

theorem Blameless.mapFailure {session : Session α} (h : session.Blameless) {f : Failure → Failure}
    (hf : ∀ failure, failure.kind ≠ .validation → (f failure).kind ≠ .validation) :
    (session.mapFailure f).Blameless :=
  fun db => (h db).mapError hf

theorem Blameless.within {session : Session α} (h : session.Blameless) (context : Context) :
    (session.within context).Blameless :=
  h.mapFailure fun _ hkind => hkind

/-! ## Reading row by row -/

/-- From a database on the session reads rows, one after the other. -/
structure Scans (session : Session α) (db : Database) (rows : List StoredRow) : Prop where
  stopped : ∀ failure, rows.findSome? StoredRow.failure? = some failure →
    (session db).1 = .error failure
  passed : rows.findSome? StoredRow.failure? = none → PaymentOrders.Blameless (session db).1

variable {session : Session α} {db db' : Database} {rows : List StoredRow}

theorem scans_nil (h : PaymentOrders.Blameless (session db).1) : session.Scans db [] where
  stopped := by
    intro failure hfailure
    cases hfailure
  passed := fun _ => h

theorem Scans.bind {next : α → Session β} (h : session.Scans db rows)
    (hnext : ∀ a, (next a).Blameless) : (session >>= next).Scans db rows := by
  rcases hrun : session db with ⟨answer, after⟩
  constructor
  · intro failure hfailure
    have hanswer := h.stopped failure hfailure
    rw [hrun] at hanswer
    cases hanswer
    rw [Steps.bind_of_error hrun]
  · intro hnone
    have hanswer := h.passed hnone
    rw [hrun] at hanswer
    cases answer with
    | error failure =>
        rw [Steps.bind_of_error hrun]
        exact .error (hanswer failure rfl)
    | ok a =>
        rw [Steps.bind_of_ok hrun]
        exact hnext a after

theorem Scans.after {first : Session β} {next : β → Session α} {b : β}
    (hfirst : first db = (.ok b, db')) (h : (next b).Scans db' rows) :
    (first >>= next).Scans db rows := by
  constructor
  · intro failure hfailure
    rw [Steps.bind_of_ok hfirst]
    exact h.stopped failure hfailure
  · intro hnone
    rw [Steps.bind_of_ok hfirst]
    exact h.passed hnone

theorem Scans.map (h : session.Scans db rows) (f : α → β) : (f <$> session).Scans db rows := by
  constructor
  · intro failure hfailure
    rw [Steps.map_apply, h.stopped failure hfailure]
    rfl
  · intro hnone
    rw [Steps.map_apply]
    exact (h.passed hnone).map f

theorem Scans.transaction (h : session.Scans db rows) : session.transaction.Scans db rows := by
  constructor
  · intro failure hfailure
    rw [fst_transaction]
    exact h.stopped failure hfailure
  · intro hnone
    rw [fst_transaction]
    exact h.passed hnone

theorem Scans.of_eq {other : Session α} (h : other.Scans db rows) (heq : session db = other db) :
    session.Scans db rows where
  stopped := by
    rw [heq]
    exact h.stopped
  passed := by
    rw [heq]
    exact h.passed

theorem scans_row {statement : Database → Except Failure α} {row : StoredRow}
    (hrow : row.failure? = Steps.error? (statement db)) : (read statement).Scans db [row] := by
  constructor
  · intro failure hfailure
    rw [List.findSome?_singleton, hrow] at hfailure
    exact Steps.error?_eq_some.mp hfailure
  · intro hnone
    rw [List.findSome?_singleton, hrow] at hnone
    obtain ⟨a, ha⟩ := Steps.error?_eq_none.mp hnone
    rw [read_apply, ha]
    exact .ok a

theorem scans_mapM {ρ : Type} {row : ρ → StoredRow} {readRow : ρ → Except Failure α}
    (hrow : ∀ stored, (row stored).failure? = Steps.error? (readRow stored))
    {statement : Database → Except Failure (List α)} {found : List ρ}
    (hread : statement db = found.mapM readRow) : (read statement).Scans db (found.map row) := by
  have hfirst : (found.map row).findSome? StoredRow.failure? =
      Steps.error? (found.mapM readRow) := by
    rw [List.findSome?_map, Steps.error?_mapM]
    exact congrArg (fun f => found.findSome? f) (funext hrow)
  rw [← hread] at hfirst
  constructor
  · intro failure hfailure
    exact Steps.error?_eq_some.mp (hfirst ▸ hfailure)
  · intro hnone
    obtain ⟨answers, hanswers⟩ := Steps.error?_eq_none.mp (hfirst ▸ hnone)
    rw [read_apply, hanswers]
    exact .ok _

end Session

/-! ## Statements that read no rows -/

theorem blameless_orderRows (db : Database) : Blameless db.orderRows := by
  unfold Database.orderRows
  split
  · exact .ok _
  · exact .fault _ _

theorem blameless_theTrail (db : Database) : Blameless db.theTrail := by
  unfold Database.theTrail
  split
  · exact .ok _
  · exact .fault _ _

theorem blameless_nextNumber (trail : Trail) : Blameless trail.nextNumber := by
  unfold Trail.nextNumber
  split
  · exact .ok _
  · exact .fault _ _

theorem blameless_insert (checked : Bool) (row : RevisionRow) (trail : Trail) :
    Blameless (trail.insert checked row) := by
  unfold Trail.insert
  split
  · exact .fault _ _
  · split
    · exact .fault _ _
    · exact .ok _

theorem blameless_replaceOrderRow (row : OrderRow) (rows : List OrderRow) :
    Blameless (replaceOrderRow row rows) := by
  unfold replaceOrderRow
  split
  · exact .ok _
  · exact .fault _ _

theorem blameless_insertOrderRow (checked : Bool) (row : OrderRow) (rows : List OrderRow) :
    Blameless (insertOrderRow checked row rows) := by
  unfold insertOrderRow
  split
  · exact .ok _
  · exact .fault _ _

/-- A pair that is taken is a conflict, and any other failure stays what it is. -/
theorem kind_pairFailure (fields : OrderFields) (context : Context) {failure : Failure}
    (h : failure.kind ≠ .validation) :
    (pairFailure fields context failure).kind ≠ .validation := by
  unfold pairFailure
  split
  · exact fun hkind => by cases hkind
  · exact h

theorem blameless_appendRevision (change : ChangeType) (order : Order) (time : Timestamp) :
    (appendRevision change order time).Blameless := by
  apply Session.Blameless.within
  apply Session.blameless_write
  intro db
  apply (blameless_theTrail db).bind
  intro trail
  apply (blameless_nextNumber trail).bind
  intro number
  apply (blameless_insert true _ trail).bind
  intro grown
  exact .ok _

theorem blameless_replaceFields (row : OrderRow) (fields : OrderFields) :
    (replaceFields row fields).Blameless := by
  refine Session.Blameless.mapFailure ?_ fun failure => kind_pairFailure fields _
  apply Session.blameless_write
  intro db
  apply (blameless_orderRows db).bind
  intro rows
  apply (blameless_replaceOrderRow _ rows).bind
  intro changed
  exact .ok _

theorem blameless_insertOrder (order : Order) : (insertOrder order).Blameless := by
  refine Session.Blameless.mapFailure ?_ fun failure => kind_pairFailure order.fields _
  apply Session.blameless_write
  intro db
  apply (blameless_orderRows db).bind
  intro rows
  apply (blameless_insertOrderRow true _ rows).bind
  intro grown
  exact .ok _

theorem blameless_appendDeleted (clock : Clock) (i : Nat) (orders : List Order) :
    (appendDeleted clock i orders).Blameless := by
  induction orders generalizing i with
  | nil => exact fun _ => .ok _
  | cons order orders ih =>
      apply (blameless_appendRevision _ _ _).bind
      intro number
      exact ih (i + 1)

theorem blameless_dropSelected (filter : OrderFilter) : (dropSelected filter).Blameless := by
  apply Session.Blameless.within
  apply Session.blameless_write
  intro db
  apply (blameless_orderRows db).bind
  intro rows
  exact .ok _

theorem blameless_purgeTrail (gone : Database → Trail → RevisionRow → Bool) :
    (purgeTrail gone).Blameless := by
  apply Session.blameless_write
  intro db
  apply (blameless_theTrail db).bind
  intro trail
  exact .ok _

theorem blameless_purgeSelected (filter : OrderFilter) : (purgeSelected filter).Blameless := by
  cases filter with
  | ids keys => exact (blameless_purgeTrail _).within _
  | caseIds keys => exact (blameless_purgeTrail _).within _

/-! ## What calls read -/

namespace Database

def rowWith (db : Database) (id : OrderId) : List OrderRow :=
  ((db.orders.getD []).find? (OrderRow.hasId id)).toList

def rowsSelected (db : Database) (filter : OrderFilter) : List OrderRow :=
  inOrder ((db.orders.getD []).filter (OrderRow.isSelected filter))

def rowsOf (db : Database) (id : OrderId) : List RevisionRow :=
  (db.trail.getD .empty).rowsOf id

end Database

section Calls

variable {db : Database} {id : OrderId} {filter : OrderFilter}

theorem findRow_of_missing (hrows : db.orders = none) (id : OrderId) :
    findRow id db = (.error (Database.missing .orders), db) := by
  rw [findRow, Session.read_apply, Database.orderRows, hrows]
  rfl

theorem rowWith_of_missing (hrows : db.orders = none) (id : OrderId) : db.rowWith id = [] := by
  rw [Database.rowWith, hrows]
  rfl

/-- A session that starts from the row of an order reads it, and no other row, unless it does so
later. -/
theorem scans_findRow {α : Type} {next : Option OrderRow → Session α}
    (hnone : (next none).Scans db []) (hsome : ∀ row, (next (some row)).Scans db [.order row]) :
    (findRow id >>= next).Scans db ((db.rowWith id).map .order) := by
  cases hrows : db.orders with
  | none =>
      have hfind := findRow_of_missing hrows id
      rw [rowWith_of_missing hrows]
      apply Session.scans_nil
      rw [Steps.bind_of_error hfind]
      exact .fault _ _
  | some rows =>
      have hfind := findRow_apply hrows id
      refine Session.Scans.after hfind ?_
      rw [Database.rowWith, hrows, Option.getD_some]
      cases rows.find? (OrderRow.hasId id) with
      | none => exact hnone
      | some row => exact hsome row

theorem scans_getOrder (db : Database) (id : OrderId) :
    (getOrder id).Scans db ((db.rowWith id).map .order) := by
  apply scans_findRow
  · exact Session.scans_nil (.ok none)
  · intro row
    apply Session.scans_row
    simp only [StoredRow.failure?]
    cases row.toOrder <;> rfl

theorem scans_updateOrder {fields : OrderFields} (hvalid : fields.validate = .ok ())
    (db : Database) (id : OrderId) (clock : Clock) :
    (updateOrder id fields clock).Scans db ((db.rowWith id).map .order) := by
  refine Session.Scans.of_eq (Session.Scans.transaction ?_) (updateOrder_eq_transaction hvalid)
  apply scans_findRow
  · exact Session.scans_nil (.error fun hkind => by cases hkind)
  · intro row
    apply (Session.scans_row rfl).bind
    intro order
    apply (blameless_replaceFields row fields).bind
    intro _
    apply (blameless_appendRevision _ _ _).bind
    intro number
    exact fun _ => .ok _

theorem scans_createOrder {fields : OrderFields} {name : String}
    (hvalid : fields.validate = .ok ()) (hname : Text.isBlank name = false) (db : Database)
    (fresh : OrderId) (clock : Clock) : (createOrder fields name fresh clock).Scans db [] := by
  refine Session.Scans.of_eq (Session.Scans.transaction ?_)
    (createOrder_eq_transaction hvalid hname)
  apply Session.scans_nil
  refine Session.Blameless.bind (blameless_insertOrder _) ?_ db
  intro _
  apply (blameless_appendRevision _ _ _).bind
  intro number
  exact fun _ => .ok _

theorem scans_revisionsOf (db : Database) (id : OrderId) :
    (revisionsOf id).Scans db ((db.rowsOf id).map .revision) := by
  cases htrail : db.trail with
  | none =>
      have hread : revisionsOf id db = (.error (Database.missing .trail), db) := by
        rw [revisionsOf, Session.read_apply, Database.theTrail, htrail]
        rfl
      have hnone : db.rowsOf id = [] := by
        rw [Database.rowsOf, htrail]
        exact List.filter_eq_nil_iff.mpr (by simp [Trail.inOrder, Trail.empty])
      rw [hnone]
      apply Session.scans_nil
      rw [hread]
      exact .fault _ _
  | some trail =>
      apply Session.scans_mapM (fun _ => rfl)
      rw [Database.rowsOf, Database.theTrail, htrail]
      rfl

theorem selectedRows_apply {rows : List OrderRow} (hrows : db.orders = some rows)
    (filter : OrderFilter) : selectedRows filter db = .ok (db.rowsSelected filter) := by
  rw [selectedRows, Database.orderRows, Database.rowsSelected, hrows]
  rfl

theorem selectedRows_of_missing (hrows : db.orders = none) (filter : OrderFilter) :
    selectedRows filter db = .error (Database.missing .orders) ∧
      db.rowsSelected filter = [] := by
  rw [selectedRows, Database.orderRows, Database.rowsSelected, hrows]
  exact ⟨rfl, List.mergeSort_nil⟩

/-- Only the rows of the page are read. -/
theorem scans_queryOrders {request : PageRequest} {offset : Nat}
    (hoffset : request.checkedOffset = .ok offset) (hkeys : filter.isEmpty = false)
    (db : Database) :
    (queryOrders filter request).Scans db
      ((((db.rowsSelected filter).drop offset).take request.size.toNat).map .order) := by
  have hdemand := Session.demand_ok offset db
  rw [← hoffset] at hdemand
  refine Session.Scans.after hdemand ?_
  rw [if_neg (by simp [hkeys])]
  cases hrows : db.orders with
  | none =>
      obtain ⟨hmissing, hnone⟩ := selectedRows_of_missing hrows filter
      have htotal : Session.within .countingOrders (Session.read fun db => do
          return (← selectedRows filter db).length) db =
            (.error ((Database.missing .orders).within .countingOrders), db) := by
        apply Session.mapFailure_of_error
        rw [Session.read_apply, hmissing]
        rfl
      rw [hnone, List.drop_nil, List.take_nil]
      apply Session.scans_nil
      rw [Steps.bind_of_error htotal]
      exact .fault _ _
  | some rows =>
      have hselected := selectedRows_apply hrows filter
      have htotal : Session.within .countingOrders (Session.read fun db => do
          return (← selectedRows filter db).length) db =
            (.ok (db.rowsSelected filter).length, db) := by
        apply Session.mapFailure_of_ok
        rw [Session.read_apply, hselected]
        rfl
      refine Session.Scans.after htotal (Session.Scans.bind ?_ fun content _ => .ok _)
      apply Session.scans_mapM (fun _ => rfl)
      rw [hselected, Steps.bind_ok]

theorem scans_deleteSelected (hkeys : filter.isEmpty = false) (db : Database) (clock : Clock) :
    (deleteSelected filter clock).Scans db ((db.rowsSelected filter).map .order) := by
  rw [deleteSelected, Engine.deleteSelected, if_neg (by simp [hkeys])]
  refine Session.Scans.transaction (Session.Scans.bind (Session.Scans.bind ?_ ?_) ?_)
  · cases hrows : db.orders with
    | none =>
        obtain ⟨hmissing, hnone⟩ := selectedRows_of_missing hrows filter
        rw [hnone]
        apply Session.scans_nil
        rw [Session.statement_engine, Session.read_apply, hmissing]
        exact .fault _ _
    | some rows =>
        apply Session.scans_mapM (fun _ => rfl)
        rw [selectedRows_apply hrows, Steps.bind_ok]
  · intro matched
    apply (blameless_appendDeleted clock 0 matched).bind
    intro _
    apply (blameless_dropSelected filter).bind
    intro deleted
    split
    · exact fun _ => .ok _
    · exact fun _ => .fault _ _
  · intro removed
    split
    · apply (blameless_purgeSelected filter).bind
      intro revisions
      exact fun _ => .ok _
    · exact fun _ => .error fun hkind => by cases hkind

end Calls

end Store

end PaymentOrders
