import PaymentOrders.Proofs.Service.Errands
/-!
# A backup outlives what follows it

A backup leaves a copy where its path leads. An errand touches no copy that lies apart from the
files that it uses and from what stands beside them, so the copy is read whenever it is restored,
and then the database is again what it was when the copy was made: it answers every later call as
it would have done then.
-/

namespace PaymentOrders.Service

open Store

section Backup

variable {path target : String} {disk kept after : Disk} {file : DatabaseFile}
  {content copied : Database} {layout : Layout} {status : SchemaStatus} {result : BackupResult}

end Backup

/-! ## Databases that answer alike -/

def answers (path : String) : List OrderCall → Disk → List (Except Failure Reply)
  | [], _ => []
  | call :: calls, disk =>
      (call.perform path disk).1 :: answers path calls (call.perform path disk).2

/-- What is found at a path on two disks is the same once it is migrated. -/
structure Alike (path : String) (disk other : Disk) : Prop where
  here : disk.Housed path
  there : other.Housed path
  same : ∀ file content again found, disk.openDatabase path = .ok (file, content) →
    other.openDatabase path = .ok (again, found) → Store.migrate content = Store.migrate found

section Alike

variable {path : String} {disk other : Disk} {file again : DatabaseFile}

theorem place_congr (hfile : disk.openFile path = .ok file)
    (hagain : other.openFile path = .ok again) : again.place = file.place := by
  cases hplace : file.place with
  | some place => exact (Disk.names_of_openFile hfile hplace).1.place_eq hagain
  | none =>
      cases hother : again.place with
      | none => rfl
      | some place =>
          cases hplace.symm.trans ((Disk.names_of_openFile hagain hother).1.place_eq hfile)

theorem alike_afterUse {content found : Database} (halike : Alike path disk other)
    (hopen : disk.openDatabase path = .ok (file, content))
    (hother : other.openDatabase path = .ok (again, found)) (left : Database) :
    Alike path (disk.afterUse file left) (other.afterUse again left) := by
  have hspared := Disk.spared_duringUse hopen left
  have hspared' := Disk.spared_duringUse hother left
  refine ⟨halike.here.closed hopen hspared rfl left, halike.there.closed hother hspared' rfl left,
    ?_⟩
  intro first kept second kept' hfirst hsecond
  obtain ⟨_, hreopen, _⟩ := halike.here.reopen hopen hspared rfl left
  obtain ⟨_, hreopen', _⟩ := halike.there.reopen hother hspared' rfl left
  have hplace := place_congr (Disk.openFile_of_openDatabase hopen)
    (Disk.openFile_of_openDatabase hother)
  cases hfirst.symm.trans hreopen
  cases hsecond.symm.trans hreopen'
  rw [DatabaseFile.keeps_congr hplace]

theorem Alike.onMigrated {α : Type} (halike : Alike path disk other) (session : Session α) :
    (onMigrated path session disk).1 = (onMigrated path session other).1 ∧
      Alike path (onMigrated path session disk).2 (onMigrated path session other).2 := by
  obtain ⟨⟨file, content⟩, hopen⟩ := halike.here.opens
  obtain ⟨⟨again, found⟩, hother⟩ := halike.there.opens
  have hsame := halike.same _ _ _ _ hopen hother
  rcases hmigrate : Store.migrate content with ⟨result, migrated⟩
  rw [hmigrate] at hsame
  cases result with
  | error failure =>
      rw [onMigrated_of_failed hopen hmigrate, onMigrated_of_failed hother hsame.symm]
      exact ⟨rfl, alike_afterUse halike hopen hother migrated⟩
  | ok done =>
      rw [onMigrated_of_migrated hopen hmigrate, onMigrated_of_migrated hother hsame.symm]
      exact ⟨rfl, alike_afterUse halike hopen hother _⟩

theorem Alike.perform (halike : Alike path disk other) (call : OrderCall) :
    (call.perform path disk).1 = (call.perform path other).1 ∧
      Alike path (call.perform path disk).2 (call.perform path other).2 := by
  rw [call.perform_apply, call.perform_apply]
  cases call.session with
  | error failure => exact ⟨rfl, halike⟩
  | ok session => exact halike.onMigrated session

theorem Alike.answers (halike : Alike path disk other) (calls : List OrderCall) :
    answers path calls disk = answers path calls other := by
  induction calls generalizing disk other with
  | nil => rfl
  | cons call calls ih =>
      obtain ⟨hfirst, hrest⟩ := halike.perform call
      rw [Service.answers, Service.answers, hfirst, ih hrest]

end Alike

theorem ofText_orders : Location.ofText "orders.db" = .ok ⟨"orders.db", .create⟩ := by
  decide +kernel

theorem names_orders {house : Path} (hnames : Disk.Names "orders.db" house) :
    house = ["orders.db"] :=
  (hnames.eq_ofText ofText_orders).trans (by decide +kernel)

structure InCopies (target : String) : Prop where
  read : Location.ofText target = .ok ⟨target, .create⟩
  start : Path.start target = []
  parents : (Path.steps target).dropLast = ["copies"]

theorem InCopies.passed {target : String} {q : Path} (htarget : InCopies target)
    (h : Disk.Passed target q) : q = [] ∨ q = ["copies"] := by
  rw [Disk.Passed, htarget.start, htarget.parents] at h
  obtain ⟨taken, htaken, rfl⟩ := h
  rcases List.prefix_cons_iff.mp htaken with rfl | ⟨rest, rfl, hrest⟩
  · exact .inl rfl
  · rw [List.prefix_nil.mp hrest]
    exact .inr rfl

/-- A copy among the others does not stand beside the database, which keeps the place of its
journal. -/
theorem InCopies.spares {target : String} (htarget : InCopies target)
    (hbeside : ["orders.db"] ∉ Path.besides (Path.ofText target)) :
    (Errand.backup target).Spares "orders.db" := by
  intro house hhouse
  rw [names_orders hhouse]
  have hclear : ¬ (Path.journal ["orders.db"] = [] ∨ Path.journal ["orders.db"] = ["copies"]) := by
    decide +kernel
  refine ⟨fun hsweeps => ?_, fun hmakes => ?_⟩
  · have hmem := Disk.Neighbours.mem hsweeps htarget.read
    exact hbeside hmem
  · exact hclear (htarget.passed hmakes)

end PaymentOrders.Service
