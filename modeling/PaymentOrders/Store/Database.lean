import PaymentOrders.Store.Row
/-!
# Databases

A database is its three tables, any of which may not be there yet. A session is a sequence of
statements on a database: a statement that fails changes nothing, but what was done before it
stays, unless a transaction takes it back.
-/

namespace PaymentOrders.Store

/-- The trail: the revisions of all orders, in the order in which they were written, and the
largest number that a revision ever had, as far as it was counted. -/
structure Trail where
  rows : List RevisionRow
  counter : Option Nat
  deriving DecidableEq, Repr

namespace Trail

def empty : Trail := ⟨[], none⟩

def inOrder (trail : Trail) : List RevisionRow :=
  trail.rows.mergeSort fun a b => a.number ≤ b.number

end Trail

structure Database where
  /-- The recorded schema versions, in ascending order. -/
  versions : Option (List Int)
  orders : Option (List OrderRow)
  trail : Option Trail
  /-- Whether the table of live orders was made after the trail. -/
  ordersNewer : Bool
  deriving DecidableEq, Repr

namespace Database

def empty : Database := ⟨none, none, none, false⟩

def hasTables (db : Database) : Bool :=
  db.versions.isSome || db.orders.isSome || db.trail.isSome

def missing (table : TableName) : Failure :=
  .ofFault (.noSuchTable table)

def orderRows (db : Database) : Except Failure (List OrderRow) :=
  match db.orders with
  | some rows => .ok rows
  | none => .error (missing .orders)

def theTrail (db : Database) : Except Failure Trail :=
  match db.trail with
  | some trail => .ok trail
  | none => .error (missing .trail)

end Database

/-- Statements on a database, which keep what was done before one of them fails. -/
abbrev Session (α : Type) := ExceptT Failure (StateM Database) α

namespace Session

variable {α : Type}

/-- A statement that only reads. -/
def read (statement : Database → Except Failure α) : Session α :=
  fun db => (statement db, db)

/-- A statement that writes if it does not fail. -/
def write (statement : Database → Except Failure (α × Database)) : Session α :=
  fun db =>
    match statement db with
    | .ok (answer, changed) => (.ok answer, changed)
    | .error failure => (.error failure, db)

/-- Goes on only if a value of the domain is there. -/
def demand (value : Except OrderError α) : Session α :=
  read fun _ => value.mapError Failure.ofError

def fail (failure : Failure) : Session α :=
  read fun _ => .error failure

/-- Sees the failure of a session in another light. -/
def mapFailure (f : Failure → Failure) (session : Session α) : Session α :=
  fun db => ((session db).1.mapError f, (session db).2)

/-- Tells what was being done if the session fails. -/
def within (context : Context) (session : Session α) : Session α :=
  session.mapFailure (Failure.within · context)

/-- Does everything or, if the session fails, nothing. -/
def transaction (session : Session α) : Session α :=
  fun db =>
    match session db with
    | (.ok answer, changed) => (.ok answer, changed)
    | (.error failure, _) => (.error failure, db)

@[simp] theorem snd_read (statement : Database → Except Failure α) (db : Database) :
    (read statement db).2 = db := rfl

@[simp] theorem snd_mapFailure (f : Failure → Failure) (session : Session α) (db : Database) :
    (session.mapFailure f db).2 = (session db).2 := rfl

/-- A statement that fails changes nothing. -/
theorem snd_write_of_error {statement : Database → Except Failure (α × Database)}
    {db : Database} {failure : Failure} (h : statement db = .error failure) :
    (write statement db).2 = db := by
  simp only [write, h]

@[simp] theorem fst_transaction (session : Session α) (db : Database) :
    (session.transaction db).1 = (session db).1 := by
  unfold transaction
  split <;> simp_all

/-- A transaction that succeeds keeps what its statements did. -/
theorem snd_transaction_of_ok {session : Session α} {db : Database} {answer : α}
    (h : (session db).1 = .ok answer) : (session.transaction db).2 = (session db).2 := by
  unfold transaction
  split <;> simp_all

/-- A transaction that fails takes back what its statements did. -/
theorem snd_transaction_of_error {session : Session α} {db : Database} {failure : Failure}
    (h : (session db).1 = .error failure) : (session.transaction db).2 = db := by
  unfold transaction
  split <;> simp_all

end Session

/-- The readings that a call takes from the clock, in order. -/
abbrev Clock := Nat → Timestamp

end PaymentOrders.Store
