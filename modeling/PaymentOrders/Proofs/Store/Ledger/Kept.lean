import PaymentOrders.Proofs.Store.Ledger.Calls
/-!
# Ledgers stay well kept

The empty ledger is well kept, and so is every ledger after a step from a well-kept one.
-/

namespace PaymentOrders.Store.Ledger

theorem wellKept_empty : empty.WellKept where
  ids := .nil
  pairs := .nil
  ascending := .nil
  room := Nat.zero_le _
  owned := by
    intro entry hentry
    cases hentry

section Keep

variable {ledger : Ledger}

/-- A new entry has a number above all others. -/
theorem WellKept.ascending_append (hkept : ledger.WellKept) {entry : LedgerEntry}
    (hnumber : entry.number = ledger.trail.next) :
    (ledger.entries ++ [entry]).Pairwise fun a b => a.number < b.number := by
  refine List.pairwise_append.mpr ⟨hkept.ascending, List.pairwise_singleton _ _, ?_⟩
  intro old hold new hnew
  have hle := number_le_last hold
  rw [List.mem_singleton.mp hnew, hnumber, Trail.next_eq]
  omega

theorem WellKept.create (hkept : ledger.WellKept) {order : Order}
    (hfree : ¬ PairHeld ledger.orders order.fields)
    (hunused : ∀ other ∈ ledger.orders, other.id ≠ order.id)
    (hroom : ledger.trail.next ≤ maxInteger) (time : Timestamp) :
    (ledger.create order time).WellKept where
  ids := by
    change ((ledger.orders ++ [order]).map Order.id).Nodup
    rw [List.map_append, List.nodup_append]
    refine ⟨hkept.ids, List.nodup_singleton _, ?_⟩
    intro id hid other hother
    obtain ⟨old, hold, rfl⟩ := List.mem_map.mp hid
    rw [List.map_singleton, List.mem_singleton] at hother
    rw [hother]
    exact hunused old hold
  pairs := by
    refine List.pairwise_append.mpr ⟨hkept.pairs, List.pairwise_singleton _ _, ?_⟩
    intro old hold new hnew hsame
    rw [List.mem_singleton.mp hnew] at hsame
    exact hfree ⟨old, hold, hsame⟩
  ascending := hkept.ascending_append rfl
  room := (last_create ledger order time).trans_le hroom
  owned := by
    intro entry hentry
    rcases List.mem_append.mp hentry with hentry | hentry
    · obtain ⟨owner, howner, hid⟩ := hkept.owned entry hentry
      exact ⟨owner, List.mem_append_left _ howner, hid⟩
    · rw [List.mem_singleton.mp hentry]
      exact ⟨order, List.mem_append_right _ (List.mem_singleton_self _), rfl⟩

/-- The ids of the orders are the same after one of them was modified. -/
theorem map_id_modify (ledger : Ledger) (order : Order) (time : Timestamp) :
    (ledger.modify order time).orders.map Order.id = ledger.orders.map Order.id := by
  rw [modify, List.map_map]
  apply List.map_congr_left
  intro old _
  rw [Function.comp_apply]
  split
  next hsame => exact hsame.symm
  next => rfl

theorem mem_modify {order old : Order} (hold : old ∈ ledger.orders) (hid : old.id = order.id)
    (time : Timestamp) {other : Order} :
    other ∈ (ledger.modify order time).orders ↔
      other = order ∨ other ∈ ledger.orders ∧ other.id ≠ order.id := by
  rw [modify, List.mem_map]
  constructor
  · rintro ⟨found, hfound, rfl⟩
    split
    next => exact .inl rfl
    next hne => exact .inr ⟨hfound, hne⟩
  · rintro (rfl | ⟨hother, hne⟩)
    · exact ⟨old, hold, if_pos hid⟩
    · exact ⟨other, hother, if_neg hne⟩

theorem WellKept.modify (hkept : ledger.WellKept) {order old : Order} (hold : old ∈ ledger.orders)
    (hid : old.id = order.id)
    (hfree : ¬ PairHeld (ledger.orders.filter fun other => other.id ≠ order.id) order.fields)
    (hroom : ledger.trail.next ≤ maxInteger) (time : Timestamp) :
    (ledger.modify order time).WellKept where
  ids := by
    rw [map_id_modify]
    exact hkept.ids
  pairs := by
    -- Two orders stay apart; against the modified one its new pair is free among the others.
    have hapart : ∀ other ∈ ledger.orders, other.id ≠ order.id →
        ¬ (other.caseId = order.caseId ∧ other.orderReference = order.orderReference) := by
      intro other hother hne hsame
      exact hfree ⟨other, List.mem_filter.mpr ⟨hother, decide_eq_true hne⟩, hsame⟩
    have hboth : ledger.orders.Pairwise fun a b =>
        a.id ≠ b.id ∧ ¬ (a.caseId = b.caseId ∧ a.orderReference = b.orderReference) :=
      (List.pairwise_map.mp hkept.ids).and hkept.pairs
    refine List.pairwise_map.mpr (hboth.imp_of_mem ?_)
    rintro a b ha hb ⟨hne, hpair⟩
    by_cases haid : a.id = order.id
    · have hbid : b.id ≠ order.id := fun hb => hne (haid.trans hb.symm)
      rw [if_pos haid, if_neg hbid]
      exact fun hsame => hapart b hb hbid ⟨hsame.1.symm, hsame.2.symm⟩
    · rw [if_neg haid]
      by_cases hbid : b.id = order.id
      · rw [if_pos hbid]
        exact hapart a ha haid
      · rw [if_neg hbid]
        exact hpair
  ascending := hkept.ascending_append rfl
  room := (last_modify ledger order time).trans_le hroom
  owned := by
    intro entry hentry
    rcases List.mem_append.mp hentry with hentry | hentry
    · obtain ⟨owner, howner, howns⟩ := hkept.owned entry hentry
      by_cases hsame : owner.id = order.id
      · exact ⟨order, (mem_modify hold hid time).mpr (.inl rfl), hsame ▸ howns⟩
      · exact ⟨owner, (mem_modify hold hid time).mpr (.inr ⟨howner, hsame⟩), howns⟩
    · rw [List.mem_singleton.mp hentry]
      exact ⟨order, (mem_modify hold hid time).mpr (.inl rfl), rfl⟩

theorem WellKept.remove (hkept : ledger.WellKept) {filter : OrderFilter}
    (hroom : ledger.trail.last + (ledger.orders.filter filter.wants).length ≤ maxInteger) :
    (ledger.remove filter).WellKept where
  ids := hkept.ids.sublist (List.filter_sublist.map Order.id)
  pairs := hkept.pairs.sublist List.filter_sublist
  ascending := hkept.ascending.sublist List.filter_sublist
  room := (last_remove ledger filter).trans_le hroom
  owned := by
    intro entry hentry
    obtain ⟨hentry, hstays⟩ := List.mem_filter.mp hentry
    obtain ⟨owner, howner, hid⟩ := hkept.owned entry hentry
    rw [← hid, hkept.removes_iff howner] at hstays
    exact ⟨owner, List.mem_filter.mpr ⟨howner, hstays⟩, hid⟩

theorem Step.wellKept {call : Mutation} {answer : Answer} {after : Ledger}
    (hstep : ledger.Step call answer after) (hkept : ledger.WellKept) : after.WellKept := by
  cases hstep with
  | @create fields createdBy fresh clock hvalid hname hfree hunused hroom =>
      have hpair : ¬ PairHeld ledger.orders
          (Order.create fresh fields (clock 0) createdBy).fields := hfree
      exact hkept.create hpair hunused hroom _
  | @update order fields clock hvalid hlive hfree hroom =>
      have hpair : ¬ PairHeld (ledger.orders.filter fun other => other.id ≠ order.id)
          (order.apply fields).fields := hfree
      have hid : order.id = (order.apply fields).id := rfl
      exact hkept.modify hlive hid hpair hroom _
  | delete hresolve hanswered hroom => exact hkept.remove hroom

end Keep

end PaymentOrders.Store.Ledger
