import PaymentOrders.Proofs.Store.Reading
/-!
# What is read after a write

An order that was created or changed is read as it was answered, its story is one revision longer,
and of every other order the same is read as before.
-/

namespace PaymentOrders.Store

/-- Of other orders than the one with an id, two databases tell the same. -/
structure SameBut (id : OrderId) (before after : Database) : Prop where
  order : ∀ other, other ≠ id → (getOrder other after).1 = (getOrder other before).1
  story : ∀ other, other ≠ id → (revisionsOf other after).1 = (revisionsOf other before).1

/-- An order was written, and the change was told at the end of its story. -/
structure Recorded (change : ChangeType) (order : Order) (old : List Revision) (new : Revision)
    (before after : Database) : Prop where
  found : (getOrder order.id after).1 = .ok (some order)
  before_eq : (revisionsOf order.id before).1 = .ok old
  after_eq : (revisionsOf order.id after).1 = .ok (old ++ [new])
  own : new.recordId = order.id
  changeType_eq : new.changeType = change
  snapshot_eq : new.snapshot = some order
  others : SameBut order.id before after

namespace Ledger

variable {ledger after : Ledger} {change : ChangeType} {order : Order} {time : Timestamp}

theorem find?_append_of_ne {id : OrderId} (hne : id ≠ order.id) (orders : List Order) :
    (orders ++ [order]).find? (fun other => other.id = id) =
      orders.find? fun other => other.id = id := by
  have hnone : [order].find? (fun other => other.id = id) = none := by
    simp [hne.symm]
  rw [List.find?_append, hnone, Option.or_none]

theorem find?_replace_of_ne {id : OrderId} (hne : id ≠ order.id) (orders : List Order) :
    (orders.map fun old => if old.id = order.id then order else old).find?
        (fun other => other.id = id) =
      orders.find? fun other => other.id = id := by
  induction orders with
  | nil => rfl
  | cons old orders ih =>
      rw [List.map_cons, List.find?_cons, List.find?_cons, ih]
      by_cases hold : old.id = order.id
      · rw [if_pos hold, hold, decide_eq_false hne.symm]
      · rw [if_neg hold]

/-- A step that writes one order and appends one entry for it. -/
theorem recorded_of_written (hkept : ledger.WellKept) (hafter : after.WellKept)
    (hentries : after.entries = ledger.entries ++ [⟨ledger.trail.next, change, time, order⟩])
    (hlive : order ∈ after.orders)
    (hothers : ∀ id, id ≠ order.id → after.orders.find? (fun other => other.id = id) =
      ledger.orders.find? fun other => other.id = id) :
    Recorded change order (ledger.history order.id)
      (LedgerEntry.toRevision ⟨ledger.trail.next, change, time, order⟩)
      ledger.database after.database where
  found := by rw [getOrder_database, hafter.find?_of_mem hlive]
  before_eq := by rw [hkept.revisionsOf_database]
  after_eq := by
    rw [hafter.revisionsOf_database]
    exact congrArg Except.ok (history_append_self hentries)
  own := rfl
  changeType_eq := rfl
  snapshot_eq := rfl
  others := by
    constructor
    · intro id hne
      rw [getOrder_database, getOrder_database, hothers id hne]
    · intro id hne
      rw [hafter.revisionsOf_database, hkept.revisionsOf_database,
        history_append_of_ne hentries hne.symm]

theorem WellKept.recorded_create (hkept : ledger.WellKept)
    (hafter : (ledger.create order time).WellKept) :
    Recorded .created order (ledger.history order.id)
      (LedgerEntry.toRevision ⟨ledger.trail.next, .created, time, order⟩)
      ledger.database (ledger.create order time).database :=
  recorded_of_written hkept hafter rfl (List.mem_append_right _ (List.mem_singleton_self _))
    fun _ hne => find?_append_of_ne hne _

theorem WellKept.recorded_modify (hkept : ledger.WellKept)
    (hafter : (ledger.modify order time).WellKept) {old : Order} (hold : old ∈ ledger.orders)
    (hid : old.id = order.id) :
    Recorded .modified order (ledger.history order.id)
      (LedgerEntry.toRevision ⟨ledger.trail.next, .modified, time, order⟩)
      ledger.database (ledger.modify order time).database :=
  recorded_of_written hkept hafter rfl ((mem_modify hold hid time).mpr (.inl rfl))
    fun _ hne => find?_replace_of_ne hne _

/-- A call that succeeds on a ledger is a step. -/
theorem exists_step {call : Mutation} {answer : Answer} {left : Database}
    (hkept : ledger.WellKept) (h : call.perform ledger.database = (.ok answer, left)) :
    ∃ after, ledger.Step call answer after ∧ left = after.database := by
  rcases step_or_refused hkept call with ⟨found, after, hstep⟩ | ⟨failure, hrefused⟩
  · cases (hstep.perform hkept).symm.trans h
    exact ⟨after, hstep, rfl⟩
  · rw [h] at hrefused
    cases hrefused

end Ledger

/-! ## Creations and changes -/

/-- What a creation that succeeds leaves: an order with an id that none had before. -/
structure CreatedAs (fields : OrderFields) (name : String) (fresh : OrderId) (order : Order)
    (before after : Database) : Prop where
  id_eq : order.id = fresh
  fields_eq : order.fields = fields
  creator : order.createdBy = name
  absent : (getOrder order.id before).1 = .ok none
  recorded : ∃ new, Recorded .created order [] new before after

/-- What a change that succeeds leaves: the order with other fields, and with the same id, creator
and time of creation. -/
structure ModifiedAs (id : OrderId) (fields : OrderFields) (order : Order)
    (before after : Database) : Prop where
  id_eq : order.id = id
  fields_eq : order.fields = fields
  previous : ∃ previous, (getOrder id before).1 = .ok (some previous) ∧ previous.id = id ∧
    order.createdTimestamp = previous.createdTimestamp ∧ order.createdBy = previous.createdBy
  recorded : ∃ old new, Recorded .modified order old new before after

variable {ledger : Ledger} {fields : OrderFields} {order : Order} {after : Database}

theorem createdAs_of_createOrder (hkept : ledger.WellKept) {name : String} {fresh : OrderId}
    {clock : Clock} (h : createOrder fields name fresh clock ledger.database = (.ok order, after)) :
    CreatedAs fields name fresh order ledger.database after := by
  have hdone : (Mutation.create fields name fresh clock).perform ledger.database =
      (.ok (.created order), after) := Steps.map_of_ok h
  obtain ⟨left, hstep, rfl⟩ := Ledger.exists_step hkept hdone
  have hafter := hstep.wellKept hkept
  cases hstep with
  | create hvalid hname hfree hunused hroom =>
      have hstory : ledger.history (Order.create fresh fields (clock 0) name).id = [] :=
        hkept.history_of_unused hunused
      have hrecorded := hkept.recorded_create hafter
      rw [hstory] at hrecorded
      refine ⟨rfl, rfl, rfl, ?_, _, hrecorded⟩
      have hnone : ledger.orders.find? (fun other => other.id = fresh) = none :=
        List.find?_eq_none.mpr fun other hother => by simpa using hunused other hother
      rw [Ledger.getOrder_database]
      exact congrArg Except.ok hnone

theorem modifiedAs_of_updateOrder (hkept : ledger.WellKept) {id : OrderId} {clock : Clock}
    (h : updateOrder id fields clock ledger.database = (.ok order, after)) :
    ModifiedAs id fields order ledger.database after := by
  have hdone : (Mutation.update id fields clock).perform ledger.database =
      (.ok (.modified order), after) := Steps.map_of_ok h
  obtain ⟨left, hstep, rfl⟩ := Ledger.exists_step hkept hdone
  have hafter := hstep.wellKept hkept
  cases hstep with
  | @update previous _ _ hvalid hlive hfree hroom =>
      refine ⟨rfl, rfl, ⟨previous, ?_, rfl, rfl, rfl⟩, _, _, hkept.recorded_modify hafter hlive rfl⟩
      rw [Ledger.getOrder_database, hkept.find?_of_mem hlive]

end PaymentOrders.Store
