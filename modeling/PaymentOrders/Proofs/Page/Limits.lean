import Mathlib.Order.Bounds.Defs
import PaymentOrders.Proofs.Page
/-!
# Pages at the limits of their words

No page and size are so large that their product wraps, and no total is so large that the number of
its pages does. The product may still be no row offset, which is a signed number: then there is no
such page to ask for.
-/

namespace PaymentOrders

namespace PageRequest

variable {request : PageRequest}

theorem checkedOffset_eq_ok_iff {n : Nat} :
    request.checkedOffset = .ok n ↔
      n = request.page.toNat * request.size.toNat ∧
        request.page.toNat * request.size.toNat ≤ maxOffset := by
  rcases Nat.lt_or_ge maxOffset (request.page.toNat * request.size.toNat) with hfar | hnear
  · simp [checkedOffset_of_lt hfar, Nat.not_le.mpr hfar]
  · simp [checkedOffset_of_le hnear, hnear, eq_comm]

theorem make_eq_ok_iff {page size : UInt32} :
    make page size = .ok request ↔
      request = ⟨page, size⟩ ∧ 1 ≤ size.toNat ∧ page.toNat * size.toNat ≤ maxOffset := by
  by_cases hzero : size = 0
  · simp [make, hzero]
  · have hsome : 1 ≤ size.toNat := toNat_pos_of_ne_zero hzero
    rw [make, if_neg hzero]
    rcases Nat.lt_or_ge maxOffset (page.toNat * size.toNat) with hfar | hnear
    · have hchecked : checkedOffset ⟨page, size⟩ = .error offsetTooLarge :=
        checkedOffset_of_lt hfar
      simp [hchecked, Except.map, Nat.not_le.mpr hfar]
    · have hchecked : checkedOffset ⟨page, size⟩ = .ok (page.toNat * size.toNat) :=
        checkedOffset_of_le hnear
      simp [hchecked, Except.map, hsome, hnear, eq_comm]

end PageRequest

namespace Page

variable {α : Type}

theorem isLeast_totalPages (content : List α) (request : PageRequest) (total : UInt64) :
    IsLeast {n : Nat | total.toNat ≤ n * max request.size.toNat 1}
      (ofTotal content request total).totalPages.toNat := by
  have hpos : 0 < max request.size.toNat 1 := Nat.le_max_right ..
  rw [toNat_totalPages]
  constructor
  · show total.toNat ≤ (total.toNat ⌈/⌉ max request.size.toNat 1) * max request.size.toNat 1
    rw [Nat.mul_comm]
    exact (ceilDiv_le_iff_le_mul hpos).mp le_rfl
  · intro n hn
    rw [ceilDiv_le_iff_le_mul hpos, Nat.mul_comm]
    exact hn

theorem offset_lt_iff (content : List α) {request : PageRequest} (hsize : 1 ≤ request.size.toNat)
    (total : UInt64) :
    request.offset < total ↔
      request.page.toUInt64 < (ofTotal content request total).totalPages := by
  have hmax : max request.size.toNat 1 = request.size.toNat := Nat.max_eq_left hsize
  calc request.offset < total
      ↔ ¬ total.toNat ≤ request.size.toNat * request.page.toNat := by
        rw [UInt64.lt_iff_toNat_lt, PageRequest.toNat_offset, Nat.mul_comm, Nat.not_le]
    _ ↔ ¬ (ofTotal content request total).totalPages.toNat ≤ request.page.toNat := by
        rw [toNat_totalPages, hmax, ceilDiv_le_iff_le_mul hsize]
    _ ↔ request.page.toUInt64 < (ofTotal content request total).totalPages := by
        rw [UInt64.lt_iff_toNat_lt, UInt32.toNat_toUInt64, Nat.not_le]

/-- The offset of a page is the product, and it is a row offset as long as it is a signed number of
64 bits; a page of one row or more can then be asked for. The number of pages is the least that
holds the total, where a size of zero counts as one, and the one addition on the way to it does not
wrap. A page begins before the total exactly if it is one of those. -/
theorem page_arithmetic_exact (content : List α) (request : PageRequest) (total : UInt64) :
    let product := request.page.toNat * request.size.toNat
    let page := ofTotal content request total
    request.offset.toNat = product ∧
      (∀ n, request.checkedOffset = .ok n ↔ n = product ∧ product ≤ 2 ^ 63 - 1) ∧
      (∀ made, PageRequest.make request.page request.size = .ok made ↔
        made = request ∧ 1 ≤ request.size.toNat ∧ product ≤ 2 ^ 63 - 1) ∧
      IsLeast {n : Nat | total.toNat ≤ n * max request.size.toNat 1} page.totalPages.toNat ∧
      (0 < total.toNat % max request.size.toNat 1 →
        total.toNat / max request.size.toNat 1 + 1 < 2 ^ 64) ∧
      (1 ≤ request.size.toNat →
        (request.offset < total ↔ request.page.toUInt64 < page.totalPages)) := by
  intro product page
  refine ⟨PageRequest.toNat_offset request, ?_, ?_, isLeast_totalPages content request total,
    div_add_one_lt total, fun hsize => offset_lt_iff content hsize total⟩
  · intro n
    exact PageRequest.checkedOffset_eq_ok_iff
  · intro made
    exact PageRequest.make_eq_ok_iff

/-- The largest page of the largest size begins before a total near the largest one, which leaves a
rest, but at no row offset. -/
theorem page_arithmetic_exact_largest :
    let request : PageRequest := ⟨4294967295, 4294967295⟩
    let total : UInt64 := 18446744073709551614
    let page := ofTotal ([] : List Unit) request total
    request.offset.toNat = 18446744065119617025 ∧
      (∀ made, PageRequest.make request.page request.size ≠ .ok made) ∧
      (0 < total.toNat % max request.size.toNat 1 ∧
        total.toNat / max request.size.toNat 1 + 1 < 2 ^ 64) ∧
      1 ≤ request.size.toNat ∧ request.page.toUInt64 < page.totalPages := by
  intro request total page
  obtain ⟨hoffset, _, hmake, _, hwrap, hbefore⟩ :=
    page_arithmetic_exact ([] : List Unit) request total
  have hproduct : request.page.toNat * request.size.toNat = 18446744065119617025 := by decide
  have hrest : 0 < total.toNat % max request.size.toNat 1 := by decide
  have hsize : 1 ≤ request.size.toNat := by decide
  refine ⟨hoffset.trans hproduct, fun made hmade => ?_, ⟨hrest, hwrap hrest⟩, hsize,
    (hbefore hsize).mp (by decide)⟩
  have hnear := ((hmake made).mp hmade).2.2
  rw [hproduct] at hnear
  exact absurd hnear (by decide)

end Page

end PaymentOrders
