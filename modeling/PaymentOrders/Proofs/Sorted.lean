import Mathlib.Data.List.Dedup
import PaymentOrders.Sorted
/-!
# What a list of keys holds

A list of keys holds what was put into it, each key once and in strictly ascending order.
-/

namespace PaymentOrders.Sorted

variable {α : Type}

variable {key : α → Nat}

theorem mem_insertKey (hkey : Function.Injective key) {x y : α} {xs : List α} :
    y ∈ insertKey key x xs ↔ y = x ∨ y ∈ xs := by
  induction xs with
  | nil => simp [insertKey]
  | cons z zs ih =>
      rw [insertKey]
      split
      · simp
      · split
        next heq =>
          have hsame : x = z := hkey heq
          simp [hsame]
        next => simp only [List.mem_cons, ih, or_left_comm]

theorem mem_ofKeys (hkey : Function.Injective key) {y : α} {xs : List α} :
    y ∈ ofKeys key xs ↔ y ∈ xs := by
  induction xs with
  | nil => rfl
  | cons x xs ih =>
      change y ∈ insertKey key x (ofKeys key xs) ↔ _
      rw [mem_insertKey hkey, ih, List.mem_cons]

theorem pairwise_insertKey (hkey : Function.Injective key) {x : α} {xs : List α}
    (h : xs.Pairwise fun a b => key a < key b) :
    (insertKey key x xs).Pairwise fun a b => key a < key b := by
  induction xs with
  | nil => simp [insertKey]
  | cons z zs ih =>
      obtain ⟨hz, hzs⟩ := List.pairwise_cons.mp h
      rw [insertKey]
      split
      next hlt =>
        refine List.pairwise_cons.mpr ⟨?_, h⟩
        intro y hy
        rcases List.mem_cons.mp hy with rfl | hy
        · exact hlt
        · exact Nat.lt_trans hlt (hz y hy)
      next hle =>
        split
        next => exact h
        next hne =>
          refine List.pairwise_cons.mpr ⟨?_, ih hzs⟩
          intro y hy
          rcases (mem_insertKey hkey).mp hy with rfl | hy
          · omega
          · exact hz y hy

theorem pairwise_ofKeys (hkey : Function.Injective key) (xs : List α) :
    (ofKeys key xs).Pairwise fun a b => key a < key b := by
  induction xs with
  | nil => exact .nil
  | cons x xs ih => exact pairwise_insertKey hkey ih

theorem nodup_ofKeys (hkey : Function.Injective key) (xs : List α) : (ofKeys key xs).Nodup := by
  apply (pairwise_ofKeys hkey xs).imp
  intro a b hlt heq
  rw [heq] at hlt
  exact Nat.lt_irrefl _ hlt

/-- A list of keys has one element for each different element that was put into it. -/
theorem length_ofKeys [DecidableEq α] (hkey : Function.Injective key) (xs : List α) :
    (ofKeys key xs).length = xs.dedup.length := by
  apply List.Perm.length_eq
  rw [List.perm_ext_iff_of_nodup (nodup_ofKeys hkey xs) xs.nodup_dedup]
  intro y
  rw [mem_ofKeys hkey, List.mem_dedup]

/-- Lists in strictly ascending order are equal once they have the same elements. -/
theorem eq_of_mem_iff {xs ys : List α} (hxs : xs.Pairwise fun a b => key a < key b)
    (hys : ys.Pairwise fun a b => key a < key b) (h : ∀ x, x ∈ xs ↔ x ∈ ys) : xs = ys := by
  have hnodup {zs : List α} (hzs : zs.Pairwise fun a b => key a < key b) : zs.Nodup :=
    hzs.imp fun hlt heq => absurd (heq ▸ hlt) (Nat.lt_irrefl _)
  have hperm : xs.Perm ys := (List.perm_ext_iff_of_nodup (hnodup hxs) (hnodup hys)).mpr h
  refine hperm.eq_of_pairwise ?_ hxs hys
  intro a b _ _ hab hba
  exact absurd hba (Nat.lt_asymm hab)

end PaymentOrders.Sorted
