import PaymentOrders.Proofs.Store.Ledger
/-!
# Calls on a ledger

Each way in which a call with valid fields or keys can end on a ledger, and from them that a call
is a step of the ledger or leaves it as it was.
-/

namespace PaymentOrders.Store.Ledger

/-! ## Creating -/

section Create

variable {ledger : Ledger} {fields : OrderFields} {createdBy : String} {fresh : OrderId}
  (hvalid : fields.validate = .ok ()) (hname : Text.isBlank createdBy = false)

include hvalid hname

theorem createOrder_conflict (hheld : PairHeld ledger.orders fields) (clock : Clock) :
    createOrder fields createdBy fresh clock ledger.database =
      (.error (.ofError (pairTaken fields.caseId fields.orderReference)), ledger.database) :=
  createOrder_of_held hvalid hname rfl (held_map_ofOrder.mpr hheld)

theorem createOrder_collision (hfree : ¬ PairHeld ledger.orders fields)
    (hused : ∃ order ∈ ledger.orders, order.id = fresh) (clock : Clock) :
    createOrder fields createdBy fresh clock ledger.database =
      (.error ((rejected .orders .duplicateKey).within .insertingOrder), ledger.database) := by
  obtain ⟨order, horder, rfl⟩ := hused
  have hrow : ∃ row ∈ ledger.orders.map OrderRow.ofOrder, row.id = some order.id.toText :=
    ⟨.ofOrder order, List.mem_map_of_mem horder, rfl⟩
  exact createOrder_of_used hvalid hname rfl (mt held_map_ofOrder.mp hfree) hrow

variable (hfree : ¬ PairHeld ledger.orders fields)
  (hunused : ∀ order ∈ ledger.orders, order.id ≠ fresh)

include hfree hunused

theorem createOrder_exhausted (hfull : ¬ ledger.trail.next ≤ maxInteger) (clock : Clock) :
    createOrder fields createdBy fresh clock ledger.database =
      (.error ((Failure.ofFault .counterExhausted).within (.appendingRevision .created fresh)),
        ledger.database) := by
  have hids : ∀ row ∈ ledger.orders.map OrderRow.ofOrder, row.id ≠ some fresh.toText := by
    simpa [OrderRow.ofOrder] using hunused
  exact createOrder_of_full hvalid hname ledger.holds (mt held_map_ofOrder.mp hfree) hids
    (Nat.lt_of_not_le hfull)

theorem createOrder_done (hroom : ledger.trail.next ≤ maxInteger) (clock : Clock) :
    createOrder fields createdBy fresh clock ledger.database =
      (.ok (Order.create fresh fields (clock 0) createdBy),
        (ledger.create (Order.create fresh fields (clock 0) createdBy) (clock 1)).database) := by
  have hids : ∀ row ∈ ledger.orders.map OrderRow.ofOrder, row.id ≠ some fresh.toText := by
    simpa [OrderRow.ofOrder] using hunused
  refine (createOrder_of_room hvalid hname ledger.holds (mt held_map_ofOrder.mp hfree) hids
    hroom).trans ?_
  simp only [Ledger.create, database, Database.withOrders, Database.withTrail, Trail.grown,
    trail, List.map_append]
  rfl

end Create

/-! ## Changing -/

section Update

variable {ledger : Ledger} {fields : OrderFields} {order : Order}
  (hvalid : fields.validate = .ok ())

include hvalid

theorem updateOrder_missing {id : OrderId} (hunused : ∀ order ∈ ledger.orders, order.id ≠ id)
    (clock : Clock) :
    updateOrder id fields clock ledger.database =
      (.error (.ofError (.notFound .id id.toText)), ledger.database) := by
  have hnone : ledger.orders.find? (fun order => order.id = id) = none := by
    rw [List.find?_eq_none]
    intro order horder hid
    exact hunused order horder (of_decide_eq_true hid)
  have hfind : (ledger.orders.map OrderRow.ofOrder).find? (OrderRow.hasId id) = none := by
    rw [find?_map_ofOrder, hnone, Option.map_none]
  exact updateOrder_of_unknown hvalid rfl hfind

variable (hkept : ledger.WellKept) (hlive : order ∈ ledger.orders)

include hkept hlive

theorem updateOrder_conflict
    (hheld : PairHeld (ledger.orders.filter fun other => other.id ≠ order.id) fields)
    (clock : Clock) :
    updateOrder order.id fields clock ledger.database =
      (.error (.ofError (pairTaken fields.caseId fields.orderReference)), ledger.database) := by
  have hrows := held_map_ofOrder.mpr hheld
  rw [← othersThan_map_ofOrder] at hrows
  exact updateOrder_of_held hvalid rfl (hkept.find?_row hlive) (OrderRow.toOrder_ofOrder order)
    hrows

variable (hfree : ¬ PairHeld (ledger.orders.filter fun other => other.id ≠ order.id) fields)

include hfree

theorem updateOrder_exhausted (hfull : ¬ ledger.trail.next ≤ maxInteger) (clock : Clock) :
    updateOrder order.id fields clock ledger.database =
      (.error ((Failure.ofFault .counterExhausted).within (.appendingRevision .modified order.id)),
        ledger.database) := by
  have hrows := mt held_map_ofOrder.mp hfree
  rw [← othersThan_map_ofOrder] at hrows
  exact updateOrder_of_full hvalid ledger.holds (hkept.find?_row hlive)
    (OrderRow.toOrder_ofOrder order) hrows (Nat.lt_of_not_le hfull)

theorem updateOrder_done (hroom : ledger.trail.next ≤ maxInteger) (clock : Clock) :
    updateOrder order.id fields clock ledger.database =
      (.ok (order.apply fields), (ledger.modify (order.apply fields) (clock 0)).database) := by
  have hnotheld := mt held_map_ofOrder.mp hfree
  rw [← othersThan_map_ofOrder] at hnotheld
  have hrow : (OrderRow.ofOrder order).withFields fields = .ofOrder (order.apply fields) := rfl
  have hrows : rowsWith order.id (.ofOrder (order.apply fields))
      (ledger.orders.map OrderRow.ofOrder) = _ :=
    rowsWith_map_ofOrder ledger.orders (order.apply fields)
  refine (updateOrder_of_room hvalid ledger.holds (hkept.find?_row hlive)
    (OrderRow.toOrder_ofOrder order) hnotheld hroom).trans ?_
  rw [hrow, hrows]
  simp only [Ledger.modify, database, Database.withOrders, Database.withTrail, Trail.grown,
    trail, List.map_append]
  rfl

end Update

/-! ## Deleting -/

section Delete

variable {ledger : Ledger} {request : DeleteRequest} {filter : OrderFilter}
  (hresolve : OrderFilter.resolve request.ids request.caseIds = .ok filter)

include hresolve

theorem deleteOrders_exhausted (hkept : ledger.WellKept)
    (hfull : ¬ ledger.trail.last + (ledger.orders.filter filter.wants).length ≤ maxInteger)
    (clock : Clock) :
    ∃ failure, deleteOrders request clock ledger.database = (.error failure, ledger.database) ∧
      failure.cause = .fault .counterExhausted := by
  have hwanted := wanted_live filter ledger
  have hsome : LiveRow.wanted filter ledger.live ≠ [] := by
    intro hnil
    rw [hwanted, List.map_eq_nil_iff] at hnil
    rw [hnil] at hfull
    exact hfull hkept.room
  have hover : maxInteger < ledger.trail.last + (LiveRow.wanted filter ledger.live).length := by
    rw [hwanted, List.length_map]
    exact Nat.lt_of_not_le hfull
  have hkeys := (OrderFilter.keys_of_resolve hresolve).1
  obtain ⟨failure, hdelete, hcause⟩ :=
    deleteSelected_of_full ledger.holds_live clock hkeys hsome hover
  exact ⟨failure, (deleteOrders_of_resolved hresolve clock ledger.database).trans hdelete, hcause⟩

variable (hroom : ledger.trail.last + (ledger.orders.filter filter.wants).length ≤ maxInteger)

include hroom

theorem deleteOrders_missing (hunanswered : ¬ filter.Answered ledger.orders) (clock : Clock) :
    ∃ detail, deleteOrders request clock ledger.database =
      (.error (.ofError (.notFound filter.referent detail)), ledger.database) := by
  have hfits := hasRoom_wanted hroom
  have hkeys := (OrderFilter.keys_of_resolve hresolve).1
  rw [deleteOrders_of_resolved hresolve]
  exact deleteSelected_of_unanswered ledger.holds_live clock hkeys hfits
    (by rwa [map_order_live])

theorem deleteOrders_done (hkept : ledger.WellKept) (hanswered : filter.Answered ledger.orders)
    (clock : Clock) :
    deleteOrders request clock ledger.database =
      (.ok (.ofLive filter ledger.live ledger.trail), (ledger.remove filter).database) := by
  have hfits := hasRoom_wanted hroom
  have hkeys := (OrderFilter.keys_of_resolve hresolve).1
  rw [deleteOrders_of_resolved hresolve, deleteSelected_of_answered ledger.holds_live clock
    hkept.idsNodup_live hkeys hfits (by rwa [map_order_live]), hkept.trail_without, spared_live,
    List.map_map]
  rfl

end Delete

/-! ## Calls are steps -/

section Perform

variable {ledger after : Ledger} {call : Mutation} {answer : Answer}

theorem Step.perform (hstep : ledger.Step call answer after) (hkept : ledger.WellKept) :
    call.perform ledger.database = (.ok answer, after.database) := by
  cases hstep with
  | create hvalid hname hfree hunused hroom =>
      exact Steps.map_of_ok (createOrder_done hvalid hname hfree hunused hroom _)
  | update hvalid hlive hfree hroom =>
      exact Steps.map_of_ok (updateOrder_done hvalid hkept hlive hfree hroom _)
  | delete hresolve hanswered hroom =>
      exact Steps.map_of_ok (deleteOrders_done hresolve hroom hkept hanswered _)

/-- The call fails and leaves the ledger as it was. -/
def Refused (ledger : Ledger) (call : Mutation) : Prop :=
  ∃ failure, call.perform ledger.database = (.error failure, ledger.database)

theorem step_or_refused_create (ledger : Ledger) (fields : OrderFields) (createdBy : String)
    (fresh : OrderId) (clock : Clock) :
    (∃ answer after, ledger.Step (.create fields createdBy fresh clock) answer after) ∨
      ledger.Refused (.create fields createdBy fresh clock) := by
  cases hvalid : fields.validate with
  | error error => exact .inr ⟨_, Steps.map_of_error (createOrder_of_invalid hvalid)⟩
  | ok valid =>
      cases hname : Text.isBlank createdBy with
      | true => exact .inr ⟨_, Steps.map_of_error (createOrder_of_nameless hvalid hname)⟩
      | false =>
          by_cases hheld : PairHeld ledger.orders fields
          · exact .inr ⟨_, Steps.map_of_error (createOrder_conflict hvalid hname hheld clock)⟩
          · by_cases hused : ∃ order ∈ ledger.orders, order.id = fresh
            · exact .inr ⟨_, Steps.map_of_error
                (createOrder_collision hvalid hname hheld hused clock)⟩
            · have hunused : ∀ order ∈ ledger.orders, order.id ≠ fresh :=
                fun order horder hid => hused ⟨order, horder, hid⟩
              by_cases hroom : ledger.trail.next ≤ maxInteger
              · exact .inl ⟨_, _, .create hvalid hname hheld hunused hroom⟩
              · exact .inr ⟨_, Steps.map_of_error
                  (createOrder_exhausted hvalid hname hheld hunused hroom clock)⟩

theorem step_or_refused_update (hkept : ledger.WellKept) (id : OrderId) (fields : OrderFields)
    (clock : Clock) :
    (∃ answer after, ledger.Step (.update id fields clock) answer after) ∨
      ledger.Refused (.update id fields clock) := by
  cases hvalid : fields.validate with
  | error error => exact .inr ⟨_, Steps.map_of_error (updateOrder_of_invalid hvalid)⟩
  | ok valid =>
      by_cases hlive : ∃ order ∈ ledger.orders, order.id = id
      · obtain ⟨order, hlive, rfl⟩ := hlive
        by_cases hheld : PairHeld (ledger.orders.filter fun other => other.id ≠ order.id) fields
        · exact .inr ⟨_, Steps.map_of_error
            (updateOrder_conflict hvalid hkept hlive hheld clock)⟩
        · by_cases hroom : ledger.trail.next ≤ maxInteger
          · exact .inl ⟨_, _, .update hvalid hlive hheld hroom⟩
          · exact .inr ⟨_, Steps.map_of_error
              (updateOrder_exhausted hvalid hkept hlive hheld hroom clock)⟩
      · have hunused : ∀ order ∈ ledger.orders, order.id ≠ id :=
          fun order horder hid => hlive ⟨order, horder, hid⟩
        exact .inr ⟨_, Steps.map_of_error (updateOrder_missing hvalid hunused clock)⟩

theorem step_or_refused_delete (hkept : ledger.WellKept) (request : DeleteRequest)
    (clock : Clock) :
    (∃ answer after, ledger.Step (.delete request clock) answer after) ∨
      ledger.Refused (.delete request clock) := by
  cases hresolve : OrderFilter.resolve request.ids request.caseIds with
  | error error =>
      exact .inr ⟨_, Steps.map_of_error (deleteOrders_of_unresolved hresolve clock _)⟩
  | ok filter =>
      by_cases hroom : ledger.trail.last + (ledger.orders.filter filter.wants).length ≤ maxInteger
      · by_cases hanswered : filter.Answered ledger.orders
        · exact .inl ⟨_, _, .delete hresolve hanswered hroom⟩
        · obtain ⟨detail, hdelete⟩ :=
            deleteOrders_missing hresolve hroom hanswered clock
          exact .inr ⟨_, Steps.map_of_error hdelete⟩
      · obtain ⟨failure, hdelete, _⟩ := deleteOrders_exhausted hresolve hkept hroom clock
        exact .inr ⟨_, Steps.map_of_error hdelete⟩

/-- A call on a well-kept ledger is a step of it or changes nothing. -/
theorem step_or_refused (hkept : ledger.WellKept) (call : Mutation) :
    (∃ answer after, ledger.Step call answer after) ∨ ledger.Refused call := by
  cases call with
  | create fields createdBy fresh clock =>
      exact step_or_refused_create ledger fields createdBy fresh clock
  | update id fields clock => exact step_or_refused_update hkept id fields clock
  | delete request clock => exact step_or_refused_delete hkept request clock

end Perform

end PaymentOrders.Store.Ledger
