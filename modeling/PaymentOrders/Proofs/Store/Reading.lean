import PaymentOrders.Proofs.Store.History
import PaymentOrders.Proofs.Store.Integrity
import PaymentOrders.Proofs.Store.Paging
/-!
# What is read of a ledger

The calls that only look find on a ledger what it holds: its orders, their stories, and nothing
that does not fit together.
-/

namespace PaymentOrders.Store.Ledger

variable {ledger : Ledger} {answers : List Answer}

theorem getOrder_database (ledger : Ledger) (id : OrderId) :
    getOrder id ledger.database =
      (.ok (ledger.orders.find? fun order => order.id = id), ledger.database) := by
  have hfind := findRow_apply (show ledger.database.orders = some _ from rfl) id
  rw [getOrder, Steps.bind_of_ok hfind, find?_map_ofOrder]
  cases ledger.orders.find? (fun order => order.id = id) with
  | none => rfl
  | some order =>
      simp only [Option.map_some, Session.read_apply, OrderRow.toOrder_ofOrder]
      rfl

/-- The rows of a ledger are in order already. -/
theorem WellKept.rowsOf_trail (hkept : ledger.WellKept) (id : OrderId) :
    ledger.trail.rowsOf id =
      (ledger.entries.filter fun entry => entry.order.id = id).map LedgerEntry.toRow := by
  have hsorted : ledger.trail.rows.Pairwise fun a b => decide (a.number ≤ b.number) = true := by
    refine List.pairwise_map.mpr (hkept.ascending.imp ?_)
    intro a b hlt
    exact decide_eq_true (Int.ofNat_le.mpr (Nat.le_of_lt hlt))
  have hbelongs : RevisionRow.belongsTo id ∘ LedgerEntry.toRow =
      fun entry => decide (entry.order.id = id) :=
    funext fun entry => LedgerEntry.belongsTo_toRow id entry
  rw [Trail.rowsOf, Trail.inOrder, List.mergeSort_of_pairwise hsorted]
  change (ledger.entries.map LedgerEntry.toRow).filter (RevisionRow.belongsTo id) = _
  rw [List.filter_map, hbelongs]

theorem WellKept.revisionsOf_database (hkept : ledger.WellKept) (id : OrderId) :
    revisionsOf id ledger.database = (.ok (ledger.history id), ledger.database) := by
  have hread : (ledger.trail.rowsOf id).mapM RevisionRow.toRevision = .ok (ledger.history id) := by
    rw [hkept.rowsOf_trail, Steps.mapM_eq_ok, history, List.forall₂_map_left_iff,
      List.forall₂_map_right_iff]
    exact List.forall₂_same.mpr fun entry _ => entry.toRevision_toRow
  have htrail : ledger.database.theTrail = .ok ledger.trail := rfl
  rw [revisionsOf, Session.read_apply, htrail, Steps.bind_ok, hread]

theorem WellKept.ascending_history (hkept : ledger.WellKept) (id : OrderId) :
    (ledger.history id).Pairwise fun a b => a.number < b.number := by
  refine List.pairwise_map.mpr ((hkept.ascending.sublist List.filter_sublist).imp ?_)
  intro a b hlt
  exact Int.ofNat_lt.mpr hlt

/-- An order has a story exactly when it is live. -/
theorem Told.history_eq_nil_iff (htold : ledger.Told answers) (hkept : ledger.WellKept)
    (id : OrderId) :
    ledger.history id = [] ↔ ledger.orders.find? (fun order => order.id = id) = none := by
  constructor
  · intro hnil
    rw [List.find?_eq_none]
    intro order horder hid
    have hsame : order.id = id := of_decide_eq_true hid
    exact (htold order horder).ne_nil (hsame ▸ hnil)
  · intro hnone
    apply hkept.history_of_unused
    intro order horder hid
    exact List.find?_eq_none.mp hnone order horder (decide_eq_true hid)

theorem exists_queryOrders (filter : OrderFilter) {request : PageRequest} {offset : Nat}
    (hoffset : request.checkedOffset = .ok offset) (ledger : Ledger) :
    ∃ page, queryOrders filter request ledger.database = (.ok page, ledger.database) :=
  ⟨_, queryOrders_apply ledger.holds_live.orders_eq filter hoffset⟩

/-! ## Integrity -/

theorem quickCheck_database (ledger : Ledger) : quickCheck ledger.database = quickCheckPassed := by
  have horders : ledger.database.violates .orders = false := by
    change (ledger.orders.map OrderRow.ofOrder).any _ = false
    rw [List.any_eq_false]
    intro row hrow
    obtain ⟨order, _, rfl⟩ := List.mem_map.mp hrow
    have hcheck : (OrderRow.ofOrder order).satisfiesCheck = true := satisfiesCheck_of_caseId rfl
    simp [hcheck]
  have htrail : ledger.database.violates .trail = false := by
    change (ledger.entries.map LedgerEntry.toRow).any _ = false
    rw [List.any_eq_false]
    intro row hrow
    obtain ⟨entry, _, rfl⟩ := List.mem_map.mp hrow
    have hcheck : entry.toRow.satisfiesCheck = true := Trail.satisfiesCheck_ofSnapshot ..
    simp [hcheck]
  have hnewest : ledger.database.newestFirst = [.trail, .orders] := rfl
  rw [quickCheck, hnewest, List.find?_cons, htrail, List.find?_cons, horders]
  rfl

/-- A live order has an entry that tells its creation. -/
theorem Told.tellsCreation (htold : ledger.Told answers) {order : Order}
    (horder : order ∈ ledger.orders) :
    ledger.trail.rows.any (RevisionRow.tellsCreation order.id.toText) = true := by
  obtain ⟨first, updates, _, _, hchanges⟩ := (htold order horder).answered
  have hmem : ChangeType.created ∈
      (ledger.history order.id).map Revision.changeType := by
    rw [hchanges]
    exact List.mem_cons_self ..
  obtain ⟨revision, hrevision, hcreated⟩ := List.mem_map.mp hmem
  obtain ⟨entry, hentry, rfl⟩ := List.mem_map.mp hrevision
  obtain ⟨hentry, hid⟩ := List.mem_filter.mp hentry
  have hsame : entry.order.id = order.id := of_decide_eq_true hid
  have hchange : entry.change = .created := hcreated
  refine List.any_eq_true.mpr ⟨entry.toRow, List.mem_map_of_mem hentry, ?_⟩
  rw [RevisionRow.tellsCreation, LedgerEntry.recordId_toRow, hsame]
  simp [LedgerEntry.toRow, RevisionRow.ofSnapshot, hchange]

theorem Told.uncreatedIds_eq (htold : ledger.Told answers) :
    uncreatedIds (ledger.orders.map OrderRow.ofOrder) ledger.trail = .ok [] := by
  have hids : (ledger.orders.map OrderRow.ofOrder).any (fun row => row.id.isNone) = false := by
    rw [List.any_eq_false]
    intro row hrow
    obtain ⟨order, _, rfl⟩ := List.mem_map.mp hrow
    simp [OrderRow.ofOrder]
  have hnone : ((ledger.orders.map OrderRow.ofOrder).filterMap OrderRow.id).filter
      (fun id => !ledger.trail.rows.any (RevisionRow.tellsCreation id)) = [] := by
    rw [List.filter_eq_nil_iff]
    intro id hid
    obtain ⟨row, hrow, hsome⟩ := List.mem_filterMap.mp hid
    obtain ⟨order, horder, rfl⟩ := List.mem_map.mp hrow
    have hid : order.id.toText = id := Option.some.inj hsome
    rw [← hid, htold.tellsCreation horder]
    exact Bool.false_ne_true
  rw [uncreatedIds, hids, hnone, sortTexts, List.mergeSort_nil]
  rfl

theorem WellKept.orphanedIds_eq (hkept : ledger.WellKept) :
    orphanedIds (ledger.orders.map OrderRow.ofOrder) ledger.trail = [] := by
  have hnone : (ledger.trail.rows.map RevisionRow.recordId).eraseDups.filter (fun recordId =>
      !(ledger.orders.map OrderRow.ofOrder).any fun row => row.id == some recordId) = [] := by
    rw [List.filter_eq_nil_iff]
    intro recordId hmem
    obtain ⟨row, hrow, rfl⟩ := List.mem_map.mp (List.mem_eraseDups.mp hmem)
    obtain ⟨entry, hentry, rfl⟩ := List.mem_map.mp hrow
    obtain ⟨owner, howner, hid⟩ := hkept.owned entry hentry
    have hany : (ledger.orders.map OrderRow.ofOrder).any
        (fun row => row.id == some entry.toRow.recordId) = true :=
      List.any_eq_true.mpr ⟨.ofOrder owner, List.mem_map_of_mem howner, by
        simp [OrderRow.ofOrder, hid]⟩
    rw [hany]
    exact Bool.false_ne_true
  rw [orphanedIds, hnone, sortTexts, List.mergeSort_nil]

theorem integrityCheck_database (hkept : ledger.WellKept) (htold : ledger.Told answers) :
    integrityCheck ledger.database =
      (.ok ⟨true, quickCheckPassed, [], [], .ofVersion 1⟩, ledger.database) := by
  rw [integrityCheck_apply ledger.holds htold.uncreatedIds_eq, quickCheck_database,
    hkept.orphanedIds_eq]
  rfl

end PaymentOrders.Store.Ledger
