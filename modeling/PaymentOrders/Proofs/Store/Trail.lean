import Mathlib.Tactic.Common
import PaymentOrders.Proofs.Steps
import PaymentOrders.Proofs.Store.Row
import PaymentOrders.Proofs.Store.Session
/-!
# Appending to the trail

A revision gets the number after the largest one that is known to have been used, as long as there
is one. No row has that number, whoever wrote the rows.
-/

namespace PaymentOrders.Store

namespace Trail

/-- The trail with one more row, under the next number. -/
def grown (trail : Trail) (row : RevisionRow) : Trail :=
  ⟨trail.rows ++ [row], some trail.next⟩

theorem next_eq (trail : Trail) : trail.next = trail.last + 1 := rfl

theorem last_le_iff {trail : Trail} {n : Nat} :
    trail.last ≤ n ↔ trail.counter.getD 0 ≤ n ∧ ∀ row ∈ trail.rows, row.number ≤ n := by
  obtain ⟨rows, counter⟩ := trail
  simp only [last]
  induction rows with
  | nil => simp
  | cons row rows ih =>
      rw [List.foldr_cons, Nat.max_le, ih, List.forall_mem_cons]
      have hnumber : row.number.toNat ≤ n ↔ row.number ≤ n := by omega
      rw [hnumber, and_left_comm]

theorem counter_le_last (trail : Trail) : trail.counter.getD 0 ≤ trail.last :=
  (last_le_iff.mp (Nat.le_refl _)).1

/-- Whoever wrote the rows, none has a number above the last one. -/
theorem number_le_last {trail : Trail} {row : RevisionRow} (hrow : row ∈ trail.rows) :
    row.number ≤ trail.last :=
  (last_le_iff.mp (Nat.le_refl _)).2 row hrow

theorem last_of_counter {rows : List RevisionRow} {n : Nat}
    (hrows : ∀ row ∈ rows, row.number ≤ n) : (⟨rows, some n⟩ : Trail).last = n :=
  Nat.le_antisymm (last_le_iff.mpr ⟨Nat.le_refl n, hrows⟩) (counter_le_last ⟨rows, some n⟩)

theorem last_grown {trail : Trail} {row : RevisionRow} (hrow : row.number = trail.next) :
    (trail.grown row).last = trail.last + 1 := by
  apply last_of_counter
  intro other hother
  rw [next_eq] at hrow ⊢
  rcases List.mem_append.mp hother with hother | hother
  · have hlast := number_le_last hother
    omega
  · rw [List.mem_singleton.mp hother, hrow]

/-- There are as many more numbers as are said. -/
def HasRoom (trail : Trail) (count : Nat) : Prop :=
  trail.last + count ≤ maxInteger

theorem HasRoom.next_le {trail : Trail} {count : Nat} (hroom : trail.HasRoom (count + 1)) :
    trail.next ≤ maxInteger := by
  rw [HasRoom] at hroom
  rw [next_eq]
  omega

theorem HasRoom.grown {trail : Trail} {count : Nat} (hroom : trail.HasRoom (count + 1))
    {row : RevisionRow} (hrow : row.number = trail.next) : (trail.grown row).HasRoom count := by
  rw [HasRoom] at hroom
  rw [HasRoom, last_grown hrow]
  omega

theorem number_ne_next {trail : Trail} : ∀ row ∈ trail.rows, row.number ≠ trail.next := by
  intro row hrow
  have hlast := number_le_last hrow
  rw [next_eq]
  omega

theorem satisfiesCheck_ofSnapshot (number : Int) (change : ChangeType) (time : Timestamp)
    (order : Order) :
    (RevisionRow.ofSnapshot number change time order).satisfiesCheck = true := by
  simp [RevisionRow.satisfiesCheck, RevisionRow.ofSnapshot]

theorem insert_next (trail : Trail) (change : ChangeType) (time : Timestamp) (order : Order) :
    trail.insert true (.ofSnapshot trail.next change time order) =
      .ok (trail.grown (.ofSnapshot trail.next change time order)) := by
  have hnone : trail.rows.any (fun other =>
      other.number == (RevisionRow.ofSnapshot trail.next change time order).number) = false := by
    rw [List.any_eq_false]
    intro other hother
    rw [beq_iff_eq]
    exact number_ne_next other hother
  have hcounter : trail.counterWith (RevisionRow.ofSnapshot trail.next change time order).number =
      trail.next := by
    have hle : trail.counter.getD 0 ≤ trail.next := Nat.le_succ_of_le trail.counter_le_last
    simp only [counterWith, RevisionRow.ofSnapshot, Int.toNat_natCast]
    exact Nat.max_eq_right hle
  rw [Trail.insert, satisfiesCheck_ofSnapshot, hnone, hcounter]
  rfl

end Trail

namespace Database

def withOrders (db : Database) (rows : List OrderRow) : Database :=
  { db with orders := some rows }

def withTrail (db : Database) (trail : Trail) : Database :=
  { db with trail := some trail }

@[simp] theorem orders_withOrders (db : Database) (rows : List OrderRow) :
    (db.withOrders rows).orders = some rows := rfl

@[simp] theorem trail_withOrders (db : Database) (rows : List OrderRow) :
    (db.withOrders rows).trail = db.trail := rfl

@[simp] theorem orders_withTrail (db : Database) (trail : Trail) :
    (db.withTrail trail).orders = db.orders := rfl

@[simp] theorem trail_withTrail (db : Database) (trail : Trail) :
    (db.withTrail trail).trail = some trail := rfl

end Database

variable {db : Database} {trail : Trail}

theorem appendRevision_of_room (htrail : db.trail = some trail) {count : Nat}
    (hroom : trail.HasRoom (count + 1)) (change : ChangeType) (order : Order)
    (time : Timestamp) :
    appendRevision change order time db =
      (.ok (trail.next : Int),
        db.withTrail (trail.grown (.ofSnapshot trail.next change time order))) := by
  apply Session.mapFailure_of_ok
  apply Session.write_of_ok
  rw [Database.theTrail, htrail]
  simp only [Steps.bind_ok, Trail.nextNumber, if_pos hroom.next_le, Trail.insert_next]
  rfl

theorem appendRevision_of_full (htrail : db.trail = some trail)
    (hfull : maxInteger < trail.next) (change : ChangeType) (order : Order) (time : Timestamp) :
    appendRevision change order time db =
      (.error ((Failure.ofFault .counterExhausted).within (.appendingRevision change order.id)),
        db) := by
  apply Session.mapFailure_of_error
  apply Session.write_of_error
  rw [Database.theTrail, htrail]
  simp only [Steps.bind_ok, Trail.nextNumber, if_neg (Nat.not_le.mpr hfull)]
  rfl

end PaymentOrders.Store
