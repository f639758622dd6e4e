import PaymentOrders.Proofs.Service.Calls
import PaymentOrders.Proofs.Store.Schema
/-!
# Calls about orders that fail

A call that fails has changed no order, no revision and not the counter, whatever made it fail:
the database that is found at the path again has the rows of the one that was found there before.
The tables may be new, since the database is migrated first.
-/

namespace PaymentOrders.Service

open Store

/-- After a call, the database at a path is found again with the rows that it had. -/
structure Spares (path : String) (disk after : Disk) : Prop where
  closed : ∀ failure, disk.openDatabase path = .error failure → after = disk
  rows : ∀ file again before left, disk.openDatabase path = .ok (file, before) →
    after.openDatabase path = .ok (again, left) → before.KeepsRows left
  opens : disk.Steady path → ∀ opened, disk.openDatabase path = .ok opened →
    ∃ again, after.openDatabase path = .ok again

section Spares

variable {path : String} {disk : Disk} {file : DatabaseFile} {before left : Database}

theorem Spares.refl (path : String) (disk : Disk) : Spares path disk disk where
  closed _ _ := rfl
  rows _ _ _ _ hopen hagain := by
    cases hopen.symm.trans hagain
    exact .refl _
  opens _ opened hopen := ⟨opened, hopen⟩

/-- What is left in a file is found there; what is left in memory is lost with what was there. -/
theorem keepsRows_keeps (hopen : disk.openDatabase path = .ok (file, before))
    (hrows : before.KeepsRows left) : before.KeepsRows (file.keeps left) := by
  rcases Disk.isFile_or_inMemory hopen with ⟨location, hpath⟩ | hmemory
  · obtain ⟨⟨place, _, hfound⟩, _, _⟩ := hpath.openDatabase_eq_ok.mp hopen
    rw [DatabaseFile.keeps, (Disk.place_of_fileAt? hfound).1]
    exact hrows
  · cases (hmemory disk).symm.trans hopen
    exact .refl _

theorem spares_afterUse (hopen : disk.openDatabase path = .ok (file, before))
    (hrows : before.KeepsRows left) : Spares path disk (disk.afterUse file left) where
  closed failure hclosed := by cases hopen.symm.trans hclosed
  rows file' again before' left' hopen' hagain := by
    cases hopen.symm.trans hopen'
    rw [((Disk.leaves_afterUse hopen left).eq_of_openDatabase hopen hagain).1]
    exact keepsRows_keeps hopen hrows
  opens hsteady opened _ := by
    obtain ⟨again, hagain⟩ := (Disk.leaves_afterUse hopen left).exists_openDatabase hopen hsteady
    exact ⟨_, hagain⟩

theorem OrderCall.atomic_session {call : OrderCall} {session : Session Reply}
    (h : call.session = .ok session) : session.Atomic := by
  cases OrderCall.asks_of_session h with
  | create _ name fresh clock => exact (atomic_createOrder _ name fresh clock).map _
  | update _ clock => exact (atomic_updateOrder _ _ clock).map _
  | get _ => exact ((OrderCall.readOnly_foundOrder _).map _).atomic
  | history _ => exact ((OrderCall.readOnly_foundHistory _).map _).atomic
  | query _ => exact ((OrderCall.readOnly_queryOrders _ _).map _).atomic
  | delete request clock => exact (atomic_deleteOrders request clock).map _

/-- A call about orders that fails spares the database. -/
theorem spares_of_failed {call : OrderCall} {failure : Failure}
    (hfailed : (call.perform path disk).1 = .error failure) :
    Spares path disk (call.perform path disk).2 := by
  rw [call.perform_apply] at hfailed ⊢
  cases hsession : call.session with
  | error refused => exact .refl path disk
  | ok session =>
      simp only [hsession] at hfailed ⊢
      cases hopen : disk.openDatabase path with
      | error closed =>
          rw [onMigrated_of_refused hopen]
          exact .refl path disk
      | ok opened =>
          obtain ⟨file, before⟩ := opened
          by_cases hnewer : targetVersion < before.version
          · rw [onMigrated_of_failed hopen (migrate_of_newer hnewer)]
            exact spares_afterUse hopen (.refl before)
          · have hmigrated := onMigrated_of_migrated hopen (migrate_of_known hnewer) session
            rw [hmigrated] at hfailed ⊢
            refine spares_afterUse hopen ?_
            rw [OrderCall.atomic_session hsession before.migrated failure hfailed]
            exact Database.keepsRows_migrated before

end Spares

end PaymentOrders.Service
