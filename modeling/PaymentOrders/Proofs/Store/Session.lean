import PaymentOrders.Proofs.Steps
import PaymentOrders.Store.Deletion
/-!
# Sessions step by step

What a single statement comes to, and which sessions leave nothing behind when they fail. A
single statement and a transaction do; so does a session that only looks before its transaction
starts.
-/

namespace PaymentOrders

/-- The answer is a failure of a kind. -/
def FailsAs {α : Type} (answer : Except Failure α) (kind : ErrorKind) : Prop :=
  ∃ failure, answer = .error failure ∧ failure.kind = kind

namespace Store.Session

variable {α β : Type} {db db' : Database} {failure : Failure}

theorem read_apply (statement : Database → Except Failure α) (db : Database) :
    read statement db = (statement db, db) := rfl

theorem statement_engine (session : Session α) : engine.statement session = session := rfl

theorem demand_ok (a : α) (db : Database) : demand (.ok a) db = (.ok a, db) := rfl

theorem demand_error (error : OrderError) (db : Database) :
    (demand (.error error) : Session α) db = (.error (.ofError error), db) := rfl

theorem write_of_ok {statement : Database → Except Failure (α × Database)} {a : α}
    (h : statement db = .ok (a, db')) : write statement db = (.ok a, db') := by
  simp only [write, h]

theorem write_of_error {statement : Database → Except Failure (α × Database)}
    (h : statement db = .error failure) : write statement db = (.error failure, db) := by
  simp only [write, h]

theorem mapFailure_of_ok {f : Failure → Failure} {session : Session α} {a : α}
    (h : session db = (.ok a, db')) : session.mapFailure f db = (.ok a, db') := by
  simp only [mapFailure, h, Except.mapError]

theorem mapFailure_of_error {f : Failure → Failure} {session : Session α}
    (h : session db = (.error failure, db')) :
    session.mapFailure f db = (.error (f failure), db') := by
  simp only [mapFailure, h, Except.mapError]

theorem transaction_of_ok {session : Session α} {a : α} (h : session db = (.ok a, db')) :
    session.transaction db = (.ok a, db') := by
  simp only [transaction, h]

theorem transaction_of_error {session : Session α} (h : session db = (.error failure, db')) :
    session.transaction db = (.error failure, db) := by
  simp only [transaction, h]

/-! ## Sessions that succeed -/

section Succeeds

variable {a : α}

theorem read_eq_ok {statement : Database → Except Failure α} :
    read statement db = (.ok a, db') ↔ statement db = .ok a ∧ db = db' := by
  rw [read_apply, Prod.mk.injEq]

theorem demand_eq_ok {value : Except OrderError α} :
    demand value db = (.ok a, db') ↔ value = .ok a ∧ db = db' := by
  rw [demand, read_eq_ok]
  cases value <;> simp [Except.mapError]

theorem write_eq_ok {statement : Database → Except Failure (α × Database)} :
    write statement db = (.ok a, db') ↔ statement db = .ok (a, db') := by
  constructor
  · intro h
    cases hrun : statement db with
    | error failure =>
        rw [write_of_error hrun] at h
        cases h
    | ok answer =>
        rw [write_of_ok hrun] at h
        cases h
        rfl
  · exact write_of_ok

theorem mapFailure_eq_ok {f : Failure → Failure} {session : Session α} :
    session.mapFailure f db = (.ok a, db') ↔ session db = (.ok a, db') := by
  constructor
  · intro h
    rcases hrun : session db with ⟨answer, after⟩
    cases answer with
    | error failure =>
        rw [mapFailure_of_error hrun] at h
        cases h
    | ok answer =>
        rw [mapFailure_of_ok hrun] at h
        exact h
  · exact mapFailure_of_ok

theorem transaction_eq_ok {session : Session α} :
    session.transaction db = (.ok a, db') ↔ session db = (.ok a, db') := by
  constructor
  · intro h
    rcases hrun : session db with ⟨answer, after⟩
    cases answer with
    | error failure =>
        rw [transaction_of_error hrun] at h
        cases h
    | ok answer =>
        rw [transaction_of_ok hrun] at h
        exact h
  · exact transaction_of_ok

end Succeeds

/-! ## Sessions that leave nothing behind -/

/-- The session changes nothing, whether it succeeds or not. -/
def ReadOnly (session : Session α) : Prop :=
  ∀ db, (session db).2 = db

/-- The session changes nothing if it fails. -/
def Atomic (session : Session α) : Prop :=
  ∀ db failure, (session db).1 = .error failure → (session db).2 = db

theorem ReadOnly.atomic {session : Session α} (h : session.ReadOnly) : session.Atomic :=
  fun db _ _ => h db

theorem readOnly_read (statement : Database → Except Failure α) : (read statement).ReadOnly :=
  fun _ => rfl

theorem readOnly_demand (value : Except OrderError α) : (demand value).ReadOnly :=
  fun _ => rfl

theorem readOnly_fail (failure : Failure) : (fail failure : Session α).ReadOnly :=
  fun _ => rfl

theorem atomic_transaction (session : Session α) : session.transaction.Atomic := by
  intro db failure h
  rw [fst_transaction] at h
  exact snd_transaction_of_error h

theorem atomic_write (statement : Database → Except Failure (α × Database)) :
    (write statement).Atomic := by
  intro db failure h
  cases hrun : statement db with
  | error found => exact snd_write_of_error hrun
  | ok answer =>
      rw [write_of_ok hrun] at h
      cases h

theorem Atomic.mapFailure {session : Session α} (h : session.Atomic) (f : Failure → Failure) :
    (session.mapFailure f).Atomic := by
  intro db failure hfail
  rcases hrun : session db with ⟨answer, after⟩
  cases answer with
  | error found =>
      have hsame := h db found (by rw [hrun])
      rw [snd_mapFailure, hsame]
  | ok a =>
      rw [mapFailure_of_ok hrun] at hfail
      cases hfail

theorem ReadOnly.bind {session : Session α} {next : α → Session β} (hfirst : session.ReadOnly)
    (hnext : ∀ a, (next a).ReadOnly) : (session >>= next).ReadOnly := by
  intro db
  have hdb := hfirst db
  rcases hrun : session db with ⟨answer, after⟩
  rw [hrun] at hdb
  subst hdb
  cases answer with
  | error failure => rw [Steps.bind_of_error hrun]
  | ok a =>
      rw [Steps.bind_of_ok hrun]
      exact hnext a _

theorem ReadOnly.map {session : Session α} (h : session.ReadOnly) (f : α → β) :
    (f <$> session).ReadOnly := by
  intro db
  rw [Steps.map_apply]
  exact h db

/-- Looking first does not make a session leave more behind. -/
theorem ReadOnly.bind_atomic {session : Session α} {next : α → Session β}
    (hfirst : session.ReadOnly) (hnext : ∀ a, (next a).Atomic) : (session >>= next).Atomic := by
  intro db failure h
  have hdb := hfirst db
  rcases hrun : session db with ⟨answer, after⟩
  rw [hrun] at hdb
  subst hdb
  cases answer with
  | error found => rw [Steps.bind_of_error hrun]
  | ok a =>
      rw [Steps.bind_of_ok hrun] at h ⊢
      exact hnext a _ failure h

theorem Atomic.map {session : Session α} (h : session.Atomic) (f : α → β) :
    (f <$> session).Atomic := by
  intro db failure hfail
  rcases hrun : session db with ⟨answer, after⟩
  cases answer with
  | error found =>
      rw [Steps.map_of_error hrun]
      have hkeep := h db found (by rw [hrun])
      rwa [hrun] at hkeep
  | ok a =>
      rw [Steps.map_of_ok hrun] at hfail
      cases hfail

end Store.Session

end PaymentOrders
