import PaymentOrders.Proofs.Steps
import PaymentOrders.Store.Schema
/-!
# What migrating does

Migrating applies the versions above the recorded one, and cannot fail at that: the last look finds
that the target is reached. It fails exactly on a database of a later version than the latest known
one, which it leaves as it is. What is applied is recorded, no row is lost, and there is nothing to
do a second time.
-/

namespace PaymentOrders.Store

variable {db : Database}

namespace Database

def version (db : Database) : Int :=
  currentVersion (db.versions.getD [])

def migrated (db : Database) : Database :=
  (pendingVersions db.version).foldl (fun db version => db.applied version) db.withVersions

/-- A database of a later version has a table of versions. -/
theorem withVersions_of_newer (h : targetVersion < db.version) : db.withVersions = db := by
  obtain ⟨versions, orders, trail, ordersNewer⟩ := db
  cases versions with
  | some versions => rfl
  | none => cases h

end Database

theorem forM_applyVersion (versions : List Int) (db : Database) :
    versions.forM applyVersion db =
      (.ok (), versions.foldl (fun db version => db.applied version) db) := by
  induction versions generalizing db with
  | nil => rfl
  | cons version versions ih =>
      have happly : applyVersion version db = (.ok (), db.applied version) := rfl
      exact (Steps.bind_of_ok happly).trans (ih _)

theorem readVersion_apply (db : Database) :
    readVersion db = (.ok db.version, db.withVersions) := rfl

theorem migrate_of_newer (h : targetVersion < db.version) :
    migrate db = (.error (.ofFault (.unsupportedVersion db.version targetVersion)), db) := by
  rw [migrate, Steps.bind_of_ok (readVersion_apply db), if_pos h, Database.withVersions_of_newer h]
  rfl

/-! ## Recorded versions -/

section Versions

variable {version v : Int} {vs : List Int}

theorem mem_recordVersion : v ∈ recordVersion version vs ↔ v = version ∨ v ∈ vs := by
  induction vs with
  | nil => simp [recordVersion]
  | cons w ws ih =>
      rw [recordVersion]
      split
      · exact List.mem_cons
      · split
        next hsame => simp [hsame]
        next => rw [List.mem_cons, ih, List.mem_cons, or_left_comm]

theorem recordVersion_recordVersion (version : Int) (vs : List Int) :
    recordVersion version (recordVersion version vs) = recordVersion version vs := by
  induction vs with
  | nil => simp [recordVersion]
  | cons w ws ih =>
      by_cases hbelow : version < w
      · simp [recordVersion, hbelow]
      · by_cases hsame : version = w
        · simp [recordVersion, hsame]
        · simp [recordVersion, hbelow, hsame, ih]

theorem currentVersion_mem (h : vs ≠ []) : currentVersion vs ∈ vs := by
  cases hmax : vs.max? with
  | none => exact absurd (List.max?_eq_none_iff.mp hmax) h
  | some v =>
      rw [currentVersion, hmax]
      exact List.max?_mem hmax

theorem le_currentVersion (hv : v ∈ vs) : v ≤ currentVersion vs := by
  obtain ⟨w, hmax⟩ := Option.isSome_iff_exists.mp (List.isSome_max?_of_mem hv)
  rw [currentVersion, hmax]
  exact (List.max?_eq_some_iff.mp hmax).2 v hv

theorem le_targetVersion (hv : v ∈ knownVersions) : v ≤ targetVersion := by
  have hall : ∀ v ∈ knownVersions, v ≤ targetVersion := by decide
  exact hall v hv

theorem targetVersion_mem_knownVersions : targetVersion ∈ knownVersions := by decide

@[simp] theorem mem_pendingVersions :
    v ∈ pendingVersions version ↔ v ∈ knownVersions ∧ version < v := by
  simp [pendingVersions]

theorem pendingVersions_targetVersion : pendingVersions targetVersion = [] := by decide

theorem pendingVersions_eq (current : Int) :
    pendingVersions current = if current < targetVersion then [targetVersion] else [] := by
  by_cases hbelow : current < targetVersion
  · rw [if_pos hbelow, pendingVersions, knownVersions]
    exact List.filter_cons_of_pos (decide_eq_true hbelow)
  · rw [if_neg hbelow, pendingVersions, knownVersions]
    exact List.filter_cons_of_neg fun h => hbelow (of_decide_eq_true h)

end Versions

namespace Database

def Records (db : Database) (version : Int) : Prop :=
  version ∈ db.versions.getD []

/-- The greatest recorded version, which is zero without any. -/
structure IsAt (db : Database) (version : Int) : Prop where
  greatest : ∀ v, db.Records v → v ≤ version
  recorded : db.Records version ∨ version = 0 ∧ ∀ v, ¬ db.Records v

/-- A table of rows stays as it is, or is made without rows. -/
structure KeepsRows (before after : Database) : Prop where
  orders : after.orders = before.orders ∨ before.orders = none ∧ after.orders = some []
  trail : after.trail = before.trail ∨ before.trail = none ∧ after.trail = some .empty

section Rows

variable {db before between after : Database} {version v : Int}

theorem isAt_version (db : Database) : db.IsAt db.version where
  greatest _ hv := le_currentVersion hv
  recorded := by
    rw [Records, version]
    by_cases hne : db.versions.getD [] = []
    · refine .inr ⟨by rw [hne]; rfl, fun v hv => ?_⟩
      rw [Records, hne] at hv
      cases hv
    · exact .inl (currentVersion_mem hne)

theorem IsAt.unique {w : Int} (hv : db.IsAt v) (hw : db.IsAt w) : v = w := by
  rcases hv.recorded with hrec | ⟨rfl, hnone⟩
  · rcases hw.recorded with hrec' | ⟨_, hnone⟩
    · exact Int.le_antisymm (hw.greatest v hrec) (hv.greatest w hrec')
    · exact absurd hrec (hnone v)
  · rcases hw.recorded with hrec' | ⟨rfl, _⟩
    · exact absurd hrec' (hnone w)
    · rfl

theorem records_applied : (db.applied version).Records v ↔ v = version ∨ db.Records v :=
  mem_recordVersion

theorem applied_applied (version : Int) (db : Database) :
    (db.applied version).applied version = db.applied version := by
  simp [Database.applied, recordVersion_recordVersion]

theorem KeepsRows.refl (db : Database) : KeepsRows db db :=
  ⟨.inl rfl, .inl rfl⟩

theorem KeepsRows.trans (hfirst : KeepsRows before between) (hnext : KeepsRows between after) :
    KeepsRows before after := by
  constructor
  · rcases hnext.orders with hsame | ⟨hnone, hmade⟩
    · rw [hsame]
      exact hfirst.orders
    · rcases hfirst.orders with hsame | ⟨_, hthere⟩
      · exact .inr ⟨hsame ▸ hnone, hmade⟩
      · cases hnone.symm.trans hthere
  · rcases hnext.trail with hsame | ⟨hnone, hmade⟩
    · rw [hsame]
      exact hfirst.trail
    · rcases hfirst.trail with hsame | ⟨_, hthere⟩
      · exact .inr ⟨hsame ▸ hnone, hmade⟩
      · cases hnone.symm.trans hthere

theorem keepsRows_withVersions (db : Database) : KeepsRows db db.withVersions :=
  ⟨.inl rfl, .inl rfl⟩

theorem keepsRows_applied (version : Int) (db : Database) : KeepsRows db (db.applied version) := by
  obtain ⟨versions, orders, trail, ordersNewer⟩ := db
  constructor
  · cases orders with
    | none => exact .inr ⟨rfl, rfl⟩
    | some rows => exact .inl rfl
  · cases trail with
    | none => exact .inr ⟨rfl, rfl⟩
    | some trail => exact .inl rfl

/-! ## Versions applied one after the other -/

variable {pending : List Int}

theorem records_foldl_applied :
    (pending.foldl (fun db version => db.applied version) db).Records v ↔
      db.Records v ∨ v ∈ pending := by
  induction pending generalizing db with
  | nil => simp
  | cons version pending ih =>
      rw [List.foldl_cons, ih, records_applied, List.mem_cons, or_comm (a := v = version), or_assoc]

theorem keepsRows_foldl_applied (pending : List Int) (db : Database) :
    KeepsRows db (pending.foldl (fun db version => db.applied version) db) := by
  induction pending generalizing db with
  | nil => exact .refl db
  | cons version pending ih => exact (keepsRows_applied version db).trans (ih _)

theorem records_migrated :
    db.migrated.Records v ↔ db.Records v ∨ v ∈ pendingVersions db.version :=
  records_foldl_applied

theorem keepsRows_migrated (db : Database) : KeepsRows db db.migrated :=
  (keepsRows_withVersions db).trans (keepsRows_foldl_applied _ _)

/-- A database below the target is brought to it, version by version. -/
theorem isAt_migrated (hknown : ¬ targetVersion < db.version) :
    db.migrated.IsAt targetVersion where
  greatest v hv := by
    rcases records_migrated.mp hv with hbefore | hpending
    · exact Int.le_trans ((isAt_version db).greatest v hbefore) (Int.not_lt.mp hknown)
    · exact le_targetVersion (mem_pendingVersions.mp hpending).1
  recorded := by
    refine .inl (records_migrated.mpr ?_)
    rcases Int.lt_or_eq_of_le (Int.not_lt.mp hknown) with hbelow | hsame
    · exact .inr (mem_pendingVersions.mpr ⟨targetVersion_mem_knownVersions, hbelow⟩)
    · rcases (isAt_version db).recorded with hrecorded | ⟨hzero, _⟩
      · exact .inl (hsame ▸ hrecorded)
      · cases hzero.symm.trans hsame

theorem version_migrated (hknown : ¬ targetVersion < db.version) :
    db.migrated.version = targetVersion :=
  (isAt_version db.migrated).unique (isAt_migrated hknown)

/-! ## Migrating again -/

theorem migrated_eq (db : Database) :
    db.migrated =
      if db.version < targetVersion then db.withVersions.applied targetVersion
      else db.withVersions := by
  rw [migrated, pendingVersions_eq]
  split <;> rfl

@[simp] theorem withVersions_migrated (db : Database) : db.migrated.withVersions = db.migrated := by
  rw [migrated_eq]
  split <;> rfl

@[simp] theorem migrated_migrated (db : Database) : db.migrated.migrated = db.migrated := by
  rw [migrated_eq db.migrated, withVersions_migrated]
  split
  next hbelow =>
    rw [migrated_eq] at hbelow ⊢
    split
    next => exact applied_applied _ _
    next hreached =>
      rw [if_neg hreached] at hbelow
      exact absurd hbelow hreached
  next => rfl

end Rows

end Database

/-! ## Migrating -/

theorem migrate_of_known (h : ¬ targetVersion < db.version) :
    migrate db = (.ok (), db.migrated) := by
  have hreached : demandTarget db.migrated = (.ok (), db.migrated) := by
    have htarget : currentVersion (db.migrated.versions.getD []) = targetVersion :=
      Database.version_migrated h
    simp only [demandTarget, Session.read, htarget, if_true]
  rw [migrate, Steps.bind_of_ok (readVersion_apply db), if_neg h,
    Steps.bind_of_ok (forM_applyVersion _ _)]
  exact hreached

/-- Migrating succeeds exactly below the versions that are not known. -/
theorem migrate_eq_ok {after : Database} :
    migrate db = (.ok (), after) ↔ ¬ targetVersion < db.version ∧ after = db.migrated := by
  by_cases h : targetVersion < db.version
  · rw [migrate_of_newer h]
    refine iff_of_false ?_ (fun hknown => hknown.1 h)
    intro hsame
    cases hsame
  · rw [migrate_of_known h, and_iff_right h, Prod.mk.injEq, and_iff_right rfl]
    exact eq_comm

/-- The last look at the version never finds another one than the target. -/
theorem migrate_ne_otherVersion (db : Database) (reached target : Int) :
    (migrate db).1 ≠ .error (.ofFault (.otherVersion reached target)) := by
  by_cases h : targetVersion < db.version
  · rw [migrate_of_newer h]
    rintro ⟨⟩
  · rw [migrate_of_known h]
    rintro ⟨⟩

theorem migrate_again {after : Database} (h : migrate db = (.ok (), after)) :
    migrate after = (.ok (), after) := by
  obtain ⟨hknown, rfl⟩ := migrate_eq_ok.mp h
  have hreached : ¬ targetVersion < db.migrated.version := by
    rw [Database.version_migrated hknown]
    exact Int.lt_irrefl _
  rw [migrate_of_known hreached, Database.migrated_migrated]

theorem schemaStatus_apply (db : Database) :
    schemaStatus db = (.ok (.ofVersion db.version), db.withVersions) := rfl

end PaymentOrders.Store
