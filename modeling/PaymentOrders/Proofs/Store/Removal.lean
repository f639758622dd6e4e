import Mathlib.Data.List.Perm.Basic
import PaymentOrders.Proofs.OrderFilter
import PaymentOrders.Proofs.Store.Orders
/-!
# Removing orders

The first half of a deletion: the rows that a filter selects are read, each order gets a last
revision, and the rows go. The orders are read in some order of the rows, which nothing that comes
later tells.
-/

namespace PaymentOrders.Store

/-- The row of a live order beside the order that it is read as, whose id it has letter by
letter. -/
structure LiveRow where
  row : OrderRow
  order : Order
  toOrder_eq : row.toOrder = .ok order
  id_eq : row.id = some order.id.toText

namespace LiveRow

def ofOrder (order : Order) : LiveRow :=
  ⟨.ofOrder order, order, OrderRow.toOrder_ofOrder order, rfl⟩

theorem isSelected_row (live : LiveRow) (filter : OrderFilter) :
    live.row.isSelected filter = filter.wants live.order := by
  obtain ⟨hcase, _⟩ := OrderRow.of_toOrder live.toOrder_eq
  rw [Bool.eq_iff_iff]
  cases filter with
  | ids keys =>
      simp only [OrderRow.isSelected, OrderRow.hasId, OrderFilter.wants, List.any_eq_true,
        live.id_eq, beq_iff_eq, Option.some.injEq, OrderId.toText_inj, decide_eq_true_eq]
      exact exists_eq_right'
  | caseIds keys =>
      simp only [OrderRow.isSelected, OrderFilter.wants, List.any_eq_true, hcase, beq_iff_eq,
        Int.natCast_inj, CaseId.number_inj, decide_eq_true_eq]
      exact exists_eq_right'

end LiveRow

/-! ## The revisions of removed orders -/

/-- The revisions that tell that some orders were deleted. -/
def tombstones (clock : Clock) : Nat → Nat → List Order → List RevisionRow
  | _, _, [] => []
  | last, i, order :: orders =>
      .ofSnapshot (last + 1 : Nat) .deleted (clock i) order ::
        tombstones clock (last + 1) (i + 1) orders

theorem mem_tombstones {clock : Clock} {last i : Nat} {orders : List Order} {row : RevisionRow}
    (h : row ∈ tombstones clock last i orders) :
    ∃ order ∈ orders, ∃ number time, row = .ofSnapshot number .deleted time order := by
  induction orders generalizing last i with
  | nil => cases h
  | cons order orders ih =>
      rcases List.mem_cons.mp h with rfl | h
      · exact ⟨order, List.mem_cons_self .., _, _, rfl⟩
      · obtain ⟨found, hfound, hrow⟩ := ih h
        exact ⟨found, List.mem_cons_of_mem _ hfound, hrow⟩

theorem tombstone_of_mem (clock : Clock) (last i : Nat) {orders : List Order} {order : Order}
    (h : order ∈ orders) :
    ∃ number time, .ofSnapshot number .deleted time order ∈ tombstones clock last i orders := by
  induction orders generalizing last i with
  | nil => cases h
  | cons first orders ih =>
      rcases List.mem_cons.mp h with rfl | h
      · exact ⟨_, _, List.mem_cons_self ..⟩
      · obtain ⟨number, time, hmem⟩ := ih (last + 1) (i + 1) h
        exact ⟨number, time, List.mem_cons_of_mem _ hmem⟩

@[simp] theorem length_tombstones (clock : Clock) (last i : Nat) (orders : List Order) :
    (tombstones clock last i orders).length = orders.length := by
  induction orders generalizing last i with
  | nil => rfl
  | cons order orders ih => rw [tombstones, List.length_cons, ih, List.length_cons]

namespace Trail

/-- The trail after the deletion of some orders was recorded. -/
def buried (trail : Trail) (clock : Clock) : Nat → List Order → Trail
  | _, [] => trail
  | i, order :: orders =>
      (trail.grown (.ofSnapshot trail.next .deleted (clock i) order)).buried clock (i + 1) orders

theorem rows_buried (trail : Trail) (clock : Clock) (i : Nat) (orders : List Order) :
    (trail.buried clock i orders).rows =
      trail.rows ++ tombstones clock trail.last i orders := by
  induction orders generalizing trail i with
  | nil => exact (List.append_nil _).symm
  | cons order orders ih =>
      rw [buried, ih, last_grown rfl]
      simp only [grown, tombstones, next_eq, List.append_assoc, List.cons_append, List.nil_append]

theorem counter_buried (trail : Trail) (clock : Clock) (i : Nat) {orders : List Order}
    (hsome : orders ≠ []) :
    (trail.buried clock i orders).counter = some (trail.last + orders.length) := by
  induction orders generalizing trail i with
  | nil => exact absurd rfl hsome
  | cons order orders ih =>
      rw [buried]
      by_cases hnil : orders = []
      · subst hnil
        rfl
      · rw [ih _ _ hnil, last_grown rfl, List.length_cons, Nat.add_assoc, Nat.add_comm 1]

end Trail

section Append

variable {db : Database} {trail : Trail}

theorem appendDeleted_of_room (htrail : db.trail = some trail) (clock : Clock) (i : Nat)
    {orders : List Order} (hroom : trail.HasRoom orders.length) :
    appendDeleted clock i orders db = (.ok (), db.withTrail (trail.buried clock i orders)) := by
  induction orders generalizing db trail i with
  | nil =>
      rw [appendDeleted, Engine.appendDeleted, Steps.pure_apply, Trail.buried,
        Database.withTrail, ← htrail]
  | cons order orders ih =>
      rw [appendDeleted, Engine.appendDeleted,
        Steps.bind_of_ok (appendRevision_of_room htrail hroom .deleted order (clock i))]
      exact ih rfl (i + 1) (hroom.grown rfl)

theorem appendDeleted_of_full (htrail : db.trail = some trail)
    (clock : Clock) (i : Nat) {orders : List Order} (hsome : orders ≠ [])
    (hfull : maxInteger < trail.last + orders.length) :
    ∃ failure after, appendDeleted clock i orders db = (.error failure, after) ∧
      failure.cause = .fault .counterExhausted := by
  induction orders generalizing db trail i with
  | nil => exact absurd rfl hsome
  | cons order orders ih =>
      rw [List.length_cons] at hfull
      by_cases hnext : trail.next ≤ maxInteger
      · have hrest : orders ≠ [] := by
          rintro rfl
          rw [Trail.next_eq] at hnext
          simp only [List.length_nil] at hfull
          omega
        have hone : trail.HasRoom (0 + 1) := hnext
        rw [appendDeleted, Engine.appendDeleted,
          Steps.bind_of_ok (appendRevision_of_room htrail hone .deleted order (clock i))]
        apply ih rfl _ hrest
        rw [Trail.last_grown rfl]
        omega
      · exact ⟨_, _, Steps.bind_of_error
          (appendRevision_of_full htrail (Nat.lt_of_not_le hnext) .deleted order (clock i)), rfl⟩

end Append

/-! ## Removing -/

namespace LiveRow

def wanted (filter : OrderFilter) (live : List LiveRow) : List LiveRow :=
  live.filter fun one => filter.wants one.order

def spared (filter : OrderFilter) (live : List LiveRow) : List LiveRow :=
  live.filter fun one => !filter.wants one.order

theorem filter_isSelected (filter : OrderFilter) (live : List LiveRow) :
    (live.map row).filter (OrderRow.isSelected filter) = (wanted filter live).map row := by
  have hselect : OrderRow.isSelected filter ∘ row = fun one => filter.wants one.order :=
    funext fun one => one.isSelected_row filter
  rw [List.filter_map, hselect, wanted]

theorem filter_not_isSelected (filter : OrderFilter) (live : List LiveRow) :
    (live.map row).filter (fun row => !row.isSelected filter) = (spared filter live).map row := by
  have hselect : (fun row : OrderRow => !row.isSelected filter) ∘ row =
      fun one => !filter.wants one.order :=
    funext fun one => congrArg not (one.isSelected_row filter)
  rw [List.filter_map, hselect, spared]

theorem mapM_row (live : List LiveRow) :
    (live.map row).mapM OrderRow.toOrder = .ok (live.map order) := by
  rw [Steps.mapM_eq_ok, List.forall₂_map_left_iff, List.forall₂_map_right_iff]
  exact List.forall₂_same.mpr fun one _ => one.toOrder_eq

/-- Rows in any order are read as the orders in some order. -/
theorem mapM_inOrder (live : List LiveRow) :
    ∃ orders : List Order, orders.Perm (live.map order) ∧
      (inOrder (live.map row)).mapM OrderRow.toOrder = .ok orders := by
  have hsorted := List.mergeSort_perm live fun a b => OrderRow.le a.row b.row
  refine ⟨_, hsorted.map order, ?_⟩
  have hrows : inOrder (live.map row) =
      (live.mergeSort fun a b => OrderRow.le a.row b.row).map row :=
    (List.map_mergeSort (f := row) fun _ _ _ _ => rfl).symm
  rw [hrows, mapM_row]

end LiveRow

def sparedRows (filter : OrderFilter) (rows : List OrderRow) : List OrderRow :=
  rows.filter fun row => !row.isSelected filter

theorem dropSelected_of_rows {db : Database} {rows : List OrderRow} (hrows : db.orders = some rows)
    (filter : OrderFilter) :
    dropSelected filter db =
      (.ok (rows.countP (OrderRow.isSelected filter)), db.withOrders (sparedRows filter rows)) := by
  apply Session.mapFailure_of_ok
  apply Session.write_of_ok
  rw [Database.orderRows, hrows]
  rfl

section Remove

variable {db : Database} {live : List LiveRow} {trail : Trail}

theorem dropSelected_apply (hrows : db.orders = some (live.map LiveRow.row))
    (filter : OrderFilter) :
    dropSelected filter db = (.ok (LiveRow.wanted filter live).length,
      db.withOrders ((LiveRow.spared filter live).map LiveRow.row)) := by
  rw [dropSelected_of_rows hrows, List.countP_eq_length_filter, LiveRow.filter_isSelected,
    List.length_map, sparedRows, LiveRow.filter_not_isSelected]

/-- The matched orders are the wanted ones in some order, and the removal comes down to their
revisions. -/
theorem removeSelected_apply (hrows : db.orders = some (live.map LiveRow.row))
    (filter : OrderFilter) (clock : Clock) :
    ∃ matched : List Order, matched.Perm ((LiveRow.wanted filter live).map LiveRow.order) ∧
      removeSelected filter clock db =
        (do
          appendDeleted clock 0 matched
          let deleted ← dropSelected filter
          if deleted = matched.length then
            return matched
          else
            Session.fail (.ofFault (.countMismatch deleted matched.length))) db := by
  obtain ⟨matched, hperm, hread⟩ := LiveRow.mapM_inOrder (LiveRow.wanted filter live)
  refine ⟨matched, hperm, ?_⟩
  have hmatch : (Session.read fun db => do
      let rows ← selectedRows filter db
      rows.mapM OrderRow.toOrder) db = (.ok matched, db) := by
    rw [Session.read_apply, selectedRows, Database.orderRows, hrows]
    simp only [Steps.bind_ok]
    rw [LiveRow.filter_isSelected]
    simp only [pure, Except.pure, Steps.bind_ok, hread]
  rw [removeSelected, Engine.removeSelected, Steps.bind_of_ok hmatch]
  rfl

theorem removeSelected_of_room (hdb : db.Holds (live.map LiveRow.row) trail)
    (filter : OrderFilter) (clock : Clock)
    (hroom : trail.HasRoom (LiveRow.wanted filter live).length) :
    ∃ matched : List Order, matched.Perm ((LiveRow.wanted filter live).map LiveRow.order) ∧
      removeSelected filter clock db = (.ok matched,
        (db.withTrail (trail.buried clock 0 matched)).withOrders
          ((LiveRow.spared filter live).map LiveRow.row)) := by
  obtain ⟨matched, hperm, hremove⟩ := removeSelected_apply hdb.orders_eq filter clock
  have hlength : matched.length = (LiveRow.wanted filter live).length := by
    rw [hperm.length_eq, List.length_map]
  have happend := appendDeleted_of_room hdb.trail_eq clock 0
    (hlength.symm ▸ hroom : trail.HasRoom matched.length)
  have hrows : (db.withTrail (trail.buried clock 0 matched)).orders =
      some (live.map LiveRow.row) := hdb.orders_eq
  refine ⟨matched, hperm, ?_⟩
  rw [hremove, Steps.bind_of_ok happend, Steps.bind_of_ok (dropSelected_apply hrows filter),
    if_pos hlength.symm]
  rfl

theorem removeSelected_of_full (hdb : db.Holds (live.map LiveRow.row) trail)
    (filter : OrderFilter) (clock : Clock)
    (hsome : LiveRow.wanted filter live ≠ [])
    (hfull : maxInteger < trail.last + (LiveRow.wanted filter live).length) :
    ∃ failure after, removeSelected filter clock db = (.error failure, after) ∧
      failure.cause = .fault .counterExhausted := by
  obtain ⟨matched, hperm, hremove⟩ := removeSelected_apply hdb.orders_eq filter clock
  have hlength : matched.length = (LiveRow.wanted filter live).length := by
    rw [hperm.length_eq, List.length_map]
  have hmatched : matched ≠ [] := by
    rintro rfl
    exact hsome (List.length_eq_zero_iff.mp hlength.symm)
  obtain ⟨failure, after, happend, hcause⟩ :=
    appendDeleted_of_full hdb.trail_eq clock 0 hmatched (by rwa [hlength])
  exact ⟨failure, after, hremove.trans (Steps.bind_of_error happend), hcause⟩

end Remove

end PaymentOrders.Store
