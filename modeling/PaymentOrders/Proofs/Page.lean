import Mathlib.Algebra.Order.Floor.Div
import Mathlib.GroupTheory.GroupAction.Ring
import PaymentOrders.Page
/-!
# Pages in whole numbers

The words of a page as the numbers that they stand for. The product of a page and a size never
wraps, and the number of pages is the total divided by the size, rounded up.
-/

namespace PaymentOrders

theorem toNat_pos_of_ne_zero {size : UInt32} (hsize : size ≠ 0) : 0 < size.toNat := by
  rw [Nat.pos_iff_ne_zero, ne_eq, ← UInt32.toNat_zero, UInt32.toNat_inj]
  exact hsize

namespace PageRequest

theorem toNat_offset (request : PageRequest) :
    request.offset.toNat = request.page.toNat * request.size.toNat := by
  have hpage := request.page.toNat_lt
  have hsize := request.size.toNat_lt
  have hproduct : request.page.toNat * request.size.toNat < 2 ^ 64 := by
    calc request.page.toNat * request.size.toNat
        ≤ (2 ^ 32 - 1) * (2 ^ 32 - 1) := Nat.mul_le_mul (by omega) (by omega)
      _ < 2 ^ 64 := by decide
  rw [offset, UInt64.toNat_mul, UInt32.toNat_toUInt64, UInt32.toNat_toUInt64,
    Nat.mod_eq_of_lt hproduct]

theorem checkedOffset_of_le {request : PageRequest}
    (h : request.page.toNat * request.size.toNat ≤ maxOffset) :
    request.checkedOffset = .ok (request.page.toNat * request.size.toNat) := by
  rw [← toNat_offset] at h ⊢
  rw [checkedOffset, if_pos h]

theorem checkedOffset_of_lt {request : PageRequest}
    (h : maxOffset < request.page.toNat * request.size.toNat) :
    request.checkedOffset = .error offsetTooLarge := by
  rw [← toNat_offset] at h
  rw [checkedOffset, if_neg (Nat.not_le.mpr h)]

end PageRequest

namespace Page

theorem ceilDiv_eq (n : Nat) {size : Nat} (hsize : 0 < size) :
    n ⌈/⌉ size = if 0 < n % size then n / size + 1 else n / size := by
  have hsplit := Nat.div_add_mod' n size
  have hrest := Nat.mod_lt n hsize
  rw [Nat.ceilDiv_eq_add_pred_div]
  split
  next hsome =>
    apply Nat.div_eq_of_lt_le
    · rw [Nat.add_mul]
      omega
    · rw [Nat.add_mul, Nat.add_mul]
      omega
  next hnone =>
    apply Nat.div_eq_of_lt_le
    · omega
    · rw [Nat.add_mul]
      omega

/-- Only a size of one has as many pages as words, and it leaves no rest. -/
theorem div_add_one_lt (total : UInt64) {size : Nat} (hsome : 0 < total.toNat % size) :
    total.toNat / size + 1 < 2 ^ 64 := by
  have htotal := total.toNat_lt
  have hone : size ≠ 1 := by
    rintro rfl
    omega
  rcases Nat.eq_zero_or_pos size with rfl | hpos
  · rw [Nat.div_zero]
    decide
  · have hhalf : total.toNat / size ≤ total.toNat / 2 :=
      Nat.div_le_div_left (by omega) (by decide)
    omega

theorem toNat_count (total : UInt64) {size : UInt64} (hsize : size ≠ 0) :
    (count total size).toNat = total.toNat ⌈/⌉ size.toNat := by
  have hpos : 0 < size.toNat := by
    rw [Nat.pos_iff_ne_zero, ne_eq, ← UInt64.toNat_zero, UInt64.toNat_inj]
    exact hsize
  have hrest : (total % size > 0) = (0 < total.toNat % size.toNat) := by
    rw [gt_iff_lt, UInt64.lt_iff_toNat_lt, UInt64.toNat_mod, UInt64.toNat_zero]
  rw [ceilDiv_eq _ hpos, count]
  simp only [hrest]
  split
  next hsome =>
    rw [UInt64.toNat_add, UInt64.toNat_div, UInt64.toNat_one,
      Nat.mod_eq_of_lt (div_add_one_lt total hsome)]
  next => rw [UInt64.toNat_div]

theorem toNat_totalPages {α : Type} (content : List α) (request : PageRequest) (total : UInt64) :
    (ofTotal content request total).totalPages.toNat =
      total.toNat ⌈/⌉ max request.size.toNat 1 := by
  have hwide : (if request.size = 0 then 1 else request.size).toUInt64.toNat =
      max request.size.toNat 1 := by
    rw [UInt32.toNat_toUInt64]
    split
    next hzero =>
      rw [hzero]
      rfl
    next hsize => rw [Nat.max_eq_left (toNat_pos_of_ne_zero hsize)]
  have hne : (if request.size = 0 then 1 else request.size).toUInt64 ≠ 0 := by
    intro hzero
    rw [hzero, UInt64.toNat_zero] at hwide
    omega
  rw [ofTotal, toNat_count _ hne, hwide]

theorem toNat_totalPages_ofTotal {α : Type} (content : List α) {request : PageRequest}
    (hsize : request.size ≠ 0) (total : UInt64) :
    (ofTotal content request total).totalPages.toNat = total.toNat ⌈/⌉ request.size.toNat := by
  rw [toNat_totalPages, Nat.max_eq_left (toNat_pos_of_ne_zero hsize)]

end Page

end PaymentOrders
