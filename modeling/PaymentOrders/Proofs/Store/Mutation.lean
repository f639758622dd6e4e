import Mathlib.Tactic.Common
import PaymentOrders.Proofs.Store.Session
/-!
# Calls that change orders

The three calls that create, change and delete orders, as one type with one way to perform
them. Whatever a database holds, a call that fails leaves it as it was.
-/

namespace PaymentOrders.Store

/-- A call that may change the orders, with what it takes from outside. -/
inductive Mutation where
  | create (fields : OrderFields) (createdBy : String) (fresh : OrderId) (clock : Clock)
  | update (id : OrderId) (fields : OrderFields) (clock : Clock)
  | delete (request : DeleteRequest) (clock : Clock)

inductive Answer where
  | created (order : Order)
  | modified (order : Order)
  | deleted (summary : DeletionSummary)
  deriving DecidableEq

def Engine.perform {m : Type → Type} [Monad m] (engine : Engine m) : Mutation → m Answer
  | .create fields createdBy fresh clock =>
      Answer.created <$> engine.createOrder fields createdBy fresh clock
  | .update id fields clock => Answer.modified <$> engine.updateOrder id fields clock
  | .delete request clock => Answer.deleted <$> engine.deleteOrders request clock

def Mutation.perform (call : Mutation) : Session Answer :=
  Session.engine.perform call

theorem atomic_createOrder (fields : OrderFields) (createdBy : String) (fresh : OrderId)
    (clock : Clock) : (createOrder fields createdBy fresh clock).Atomic := by
  unfold createOrder Engine.createOrder
  apply (Session.readOnly_demand _).bind_atomic
  intro _
  apply (Session.readOnly_demand _).bind_atomic
  intro _
  exact Session.atomic_transaction _

theorem atomic_updateOrder (id : OrderId) (fields : OrderFields) (clock : Clock) :
    (updateOrder id fields clock).Atomic := by
  unfold updateOrder Engine.updateOrder
  apply (Session.readOnly_demand _).bind_atomic
  intro _
  exact Session.atomic_transaction _

theorem atomic_deleteSelected (filter : OrderFilter) (clock : Clock) :
    (deleteSelected filter clock).Atomic := by
  unfold deleteSelected Engine.deleteSelected
  split
  · exact (Session.readOnly_fail _).atomic
  · exact Session.atomic_transaction _

theorem atomic_deleteOrders (request : DeleteRequest) (clock : Clock) :
    (deleteOrders request clock).Atomic := by
  unfold deleteOrders Engine.deleteOrders
  apply (Session.readOnly_demand _).bind_atomic
  intro filter
  exact atomic_deleteSelected filter clock

theorem Mutation.atomic_perform (call : Mutation) : call.perform.Atomic := by
  cases call with
  | create fields createdBy fresh clock =>
      exact (atomic_createOrder fields createdBy fresh clock).map _
  | update id fields clock => exact (atomic_updateOrder id fields clock).map _
  | delete request clock => exact (atomic_deleteOrders request clock).map _

/-- A call that fails, wherever it stops, leaves the orders, the trail and its counter as they
were, whatever they hold. -/
theorem failed_mutation_changes_nothing (call : Mutation) (db : Database) {failure : Failure}
    (hfailed : (call.perform db).1 = .error failure) : (call.perform db).2 = db :=
  call.atomic_perform db failure hfailed

/-! ## Two orders -/

namespace Sample

def noon : Timestamp where
  year := 2026
  month := 4
  day := 1
  hour := 12
  minute := 0
  second := 0
  nanosecond := 0
  offset := 0
  year_le := Nat.le_of_ble_eq_true rfl
  one_le_month := Nat.le_of_ble_eq_true rfl
  month_le := Nat.le_of_ble_eq_true rfl
  one_le_day := Nat.le_of_ble_eq_true rfl
  day_le := Nat.le_of_ble_eq_true rfl
  hour_le := Nat.le_of_ble_eq_true rfl
  minute_le := Nat.le_of_ble_eq_true rfl
  second_le := Nat.le_of_ble_eq_true rfl
  nanosecond_lt := Nat.le_of_ble_eq_true rfl
  offset_le := Nat.le_of_ble_eq_true rfl

def clock : Clock := fun _ => noon

def firstCase : CaseId := ⟨6551341964128977, by decide⟩

def secondCase : CaseId := ⟨1000000000000008, by decide⟩

def firstId : OrderId := ⟨1, by decide⟩

def secondId : OrderId := ⟨2, by decide⟩

def fieldsUnder (caseId : CaseId) (orderReference : String) : OrderFields where
  effectiveFrom := noon
  caseId
  action := "Case Creation"
  responsibleParty := "The Payment Team"
  orderReference

def firstOrder : Order :=
  Order.create firstId (fieldsUnder firstCase "2026/1") noon "clerk"

def secondOrder : Order :=
  Order.create secondId (fieldsUnder firstCase "2026/2") noon "clerk"

/-- The first order is live, and its trail tells that it was created. -/
def oneOrder : Database where
  versions := some [1]
  orders := some [.ofOrder firstOrder]
  trail := some ⟨[.ofSnapshot 1 .created noon firstOrder], some 1⟩
  ordersNewer := false

/-- An order moves to another case id before all orders with the old one are deleted. -/
def movedAway : List Mutation :=
  [.create (fieldsUnder firstCase "2026/1") "clerk" firstId clock,
    .update firstId (fieldsUnder secondCase "2026/1") clock,
    .create (fieldsUnder firstCase "2026/2") "clerk" secondId clock,
    .delete ⟨[], [firstCase.toText]⟩ clock]

end Sample

/-- The second id is missed only after the first order and its trail were gone. -/
theorem failed_mutation_changes_nothing_missing :
    let call := Mutation.delete ⟨[Sample.firstId.toText, Sample.secondId.toText], []⟩ Sample.clock
    (call.perform Sample.oneOrder).1 =
        .error (.ofError (.notFound .id "00000000000000000000000002")) ∧
      (call.perform Sample.oneOrder).2 = Sample.oneOrder := by
  intro call
  have hfailed : (call.perform Sample.oneOrder).1 =
      .error (.ofError (.notFound .id "00000000000000000000000002")) := by
    decide +kernel
  exact ⟨hfailed, failed_mutation_changes_nothing call Sample.oneOrder hfailed⟩

end PaymentOrders.Store
