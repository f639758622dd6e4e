import Mathlib.Tactic.Common
import PaymentOrders.Disk.Call
import PaymentOrders.Proofs.Steps
/-!
# Opening a database again

Where a path leads is written in it; the files only decide whether it can be followed. So a
database that was used is found again with the content that it was left with. Only a path that goes
on behind the place of a new database, and then back, can be followed before that database is made
and not afterwards.
-/

namespace PaymentOrders

namespace Path

theorem length_step_le (path : Path) (name : String) :
    (step path name).length ≤ path.length + 1 := by
  unfold step
  split
  · omega
  · split
    · split
      · simp
      · split
        · omega
        · split
          · simp
          · simp
            omega
    · simp

theorem length_le_step {name : String} (hname : name ≠ "..") (path : Path) :
    path.length ≤ (step path name).length := by
  unfold step
  split
  · omega
  · simp

theorem length_le_foldl_step {names : List String} (hback : ".." ∉ names) (start : Path) :
    start.length ≤ (names.foldl step start).length := by
  induction names generalizing start with
  | nil => exact Nat.le_refl _
  | cons name names ih =>
      rw [List.mem_cons, not_or] at hback
      exact Nat.le_trans (length_le_step (Ne.symm hback.1) start) (ih hback.2 _)

/-! ## Places beside a file -/

section Beside

variable {place : Path} {ending other : String}

theorem getLast?_beside (place : Path) (ending : String) :
    (beside place ending).getLast? = some (place.getLastD "" ++ ending) :=
  List.getLast?_concat

theorem beside_inj : beside place ending = beside place other ↔ ending = other := by
  rw [beside, beside, List.append_right_inj, List.singleton_inj, String.append_right_inj]

theorem beside_ne_self (hending : ending ≠ "") (place : Path) : beside place ending ≠ place := by
  intro hsame
  have hlast := getLast?_beside place ending
  rw [hsame, List.getLastD_eq_getLast?] at hlast
  cases hfound : place.getLast? with
  | none =>
      rw [hfound] at hlast
      cases hlast
  | some last =>
      rw [hfound, Option.getD_some] at hlast
      have hlength := congrArg String.length (Option.some.inj hlast)
      rw [String.length_append] at hlength
      exact hending (String.length_eq_zero_iff.mp (by omega))

theorem isTop_beside (hending : 2 < ending.length) (place : Path) :
    isTop (beside place ending) = false := by
  have hlong : 2 < (place.getLastD "" ++ ending).length := by
    rw [String.length_append]
    omega
  have hroot : beside place ending ≠ [root] := by
    intro hsame
    have hlast := getLast?_beside place ending
    rw [hsame] at hlast
    rw [← Option.some.inj hlast] at hlong
    exact absurd hlong (by decide)
  rw [isTop, Bool.or_eq_false_iff, List.all_eq_false]
  refine ⟨beq_false_of_ne hroot, place.getLastD "" ++ ending, ?_, ?_⟩
  · exact List.mem_append_right _ (List.mem_singleton_self _)
  · intro hback
    rw [beq_iff_eq.mp hback] at hlong
    exact absurd hlong (by decide)

theorem not_mem_besides_self (place : Path) : place ∉ besides place := by
  simp only [besides, List.mem_cons, List.not_mem_nil, or_false, not_or]
  exact ⟨(beside_ne_self (by decide) place).symm, (beside_ne_self (by decide) place).symm,
    (beside_ne_self (by decide) place).symm⟩

theorem log_ne_self (place : Path) : log place ≠ place :=
  beside_ne_self (by decide) place

theorem index_ne_self (place : Path) : index place ≠ place :=
  beside_ne_self (by decide) place

theorem log_ne_index (place : Path) : log place ≠ index place :=
  fun hsame => absurd (beside_inj.mp hsame) (by decide)

theorem isTop_log (place : Path) : isTop (log place) = false :=
  isTop_beside (by decide) place

theorem isTop_index (place : Path) : isTop (index place) = false :=
  isTop_beside (by decide) place

end Beside

end Path

namespace Disk

variable {disk other : Disk}

/-- What stands at a place on the other disk stops nobody who was not stopped there before. -/
def FreerAt (disk other : Disk) (place : Path) : Prop :=
  other.get? place = disk.get? place ∨ other.get? place = none ∨
    ∃ entry, disk.get? place = some entry ∧ entry ≠ .directory

/-- Whether names were followed to where there could be something. -/
def isWay : Except Obstacle Path → Bool
  | .ok _ | .error .missing => true
  | .error _ => false

theorem isWay_advance_of_none {place : Path} (h : disk.get? place = none) (name : String)
    (rest : Path → Except Obstacle Path) : isWay (disk.advance place name >>= rest) = true := by
  simp only [advance, h]
  rfl

theorem isWay_advance_of_file {place : Path} {entry : Entry} (h : disk.get? place = some entry)
    (hfile : entry ≠ .directory) (name : String) (rest : Path → Except Obstacle Path) :
    isWay (disk.advance place name >>= rest) = false := by
  cases entry with
  | directory => exact absurd rfl hfile
  | database content layout =>
      simp only [advance, h]
      rfl
  | text content =>
      simp only [advance, h]
      rfl

theorem isWay_foldlM_advance {names : List String} {start : Path}
    (hfreer : ∀ place : Path, place.length < start.length + names.length →
      FreerAt disk other place)
    (hway : isWay (names.foldlM disk.advance start) = true) :
    isWay (names.foldlM other.advance start) = true := by
  induction names generalizing start with
  | nil => rfl
  | cons name names ih =>
      rw [List.foldlM_cons] at hway ⊢
      rw [List.length_cons] at hfreer
      rcases hfreer start (by omega) with hsame | hgone | ⟨entry, hthere, hfile⟩
      · cases hentry : disk.get? start with
        | none => exact isWay_advance_of_none (hsame.trans hentry) name _
        | some entry =>
            by_cases hfile : entry = .directory
            · subst hfile
              simp only [advance, hentry] at hway
              simp only [advance, hsame.trans hentry]
              split at hway
              next hsize =>
                rw [if_pos hsize]
                refine ih (fun place hplace => hfreer place ?_) hway
                have hstep := Path.length_step_le start name
                omega
              next => cases hway
            · cases hway.symm.trans (isWay_advance_of_file hentry hfile name _)
      · exact isWay_advance_of_none hgone name _
      · cases hway.symm.trans (isWay_advance_of_file hthere hfile name _)

theorem isOpenWay_of_freer {place : Path}
    (hfreer : ∀ before : Path, before.length < place.length → FreerAt disk other before)
    (hway : disk.isOpenWay place = true) : other.isOpenWay place = true := by
  change isWay (disk.follow [] place) = true at hway
  change isWay (other.follow [] place) = true
  unfold follow at hway ⊢
  split at hway
  · cases hway
  next hnul =>
    rw [if_neg hnul]
    split at hway
    · cases hway
    next hsize =>
      rw [if_neg hsize]
      apply isWay_foldlM_advance _ hway
      intro before hbefore
      exact hfreer before (by simpa using hbefore)

theorem goOn?_eq_some {start place : Path} {name : String} :
    disk.goOn? start name = some place ↔
      disk.isOpenWay place = true ∧ Path.step start name = place := by
  rw [goOn?]
  constructor
  · intro h
    split at h
    next hway => cases h; exact ⟨hway, rfl⟩
    next => cases h
  · rintro ⟨hway, rfl⟩
    rw [if_pos hway]

/-- Following names from place to place leads where the names say. -/
theorem eq_of_foldlM_goOn? {names : List String} {start place : Path}
    (h : names.foldlM disk.goOn? start = some place) : place = names.foldl Path.step start := by
  induction names generalizing start with
  | nil => exact (Option.some.inj h).symm
  | cons name names ih =>
      rw [List.foldlM_cons] at h
      obtain ⟨next, hnext, hrest⟩ := Option.bind_eq_some_iff.mp h
      rw [List.foldl_cons, (goOn?_eq_some.mp hnext).2]
      exact ih hrest

/-- What can be followed on one disk can be followed on another one that is freer at the places
on the way; these lie above the place that is reached, unless the names lead back. -/
theorem foldlM_goOn?_of_freer {names : List String} {start place : Path}
    (hfreer : ∀ before : Path, before.length < place.length ∨ ".." ∈ names →
      FreerAt disk other before)
    (h : names.foldlM disk.goOn? start = some place) :
    names.foldlM other.goOn? start = some place := by
  induction names generalizing start with
  | nil => exact h
  | cons name names ih =>
      rw [List.foldlM_cons] at h ⊢
      obtain ⟨next, hnext, hrest⟩ := Option.bind_eq_some_iff.mp h
      obtain ⟨hway, hstep⟩ := goOn?_eq_some.mp hnext
      have hopen : other.isOpenWay next = true := by
        apply isOpenWay_of_freer _ hway
        intro before hbefore
        by_cases hback : ".." ∈ names
        · exact hfreer before (.inr (List.mem_cons_of_mem _ hback))
        · -- Names that do not lead back only go down, so `before` is above the place reached.
          have hle := Path.length_le_foldl_step hback next
          rw [← eq_of_foldlM_goOn? hrest] at hle
          exact hfreer before (.inl (by omega))
      refine Option.bind_eq_some_iff.mpr ⟨next, goOn?_eq_some.mpr ⟨hopen, hstep⟩, ?_⟩
      apply ih _ hrest
      intro before hbefore
      exact hfreer before (hbefore.imp_right (List.mem_cons_of_mem _))

theorem locate?_eq_some {path : String} {place : Path} :
    disk.locate? path = some place ↔
      (Path.names path).foldlM disk.goOn? (Path.start path) = some place ∧
        (Path.toText place).utf8ByteSize ≤ DatabaseFile.maxPathSize := by
  rw [locate?, Option.filter_eq_some_iff]
  simp

theorem eq_ofText_of_locate? {path : String} {place : Path}
    (h : disk.locate? path = some place) : place = Path.ofText path :=
  eq_of_foldlM_goOn? (locate?_eq_some.mp h).1

/-! ## Opening -/

section Open

variable {path : String} {place : Path} {access : Access} {file : DatabaseFile}
  {content : Store.Database}

theorem isDirectory_eq_false : disk.isDirectory place = false ↔
    disk.get? place ≠ some .directory := by
  rw [isDirectory, beq_eq_false_iff_ne]

/-- Nothing keeps a file from being used as a database: it may be written, what stands beside it has
a name, and there is no directory in place of that. -/
structure Usable (disk : Disk) (file : DatabaseFile) : Prop where
  writable : file.readOnly = false
  named : ∀ place, file.place = some place → disk.hasRoom file place = true
  clear : ∀ place, file.place = some place → ∀ q ∈ Path.besides place,
    disk.get? q ≠ some .directory

theorem usable_inMemory (disk : Disk) : disk.Usable .inMemory where
  writable := rfl
  named := by
    rintro place ⟨⟩
  clear := by
    rintro place ⟨⟩

theorem contentOf_eq_ok :
    disk.contentOf file = .ok content ↔ file.content = some content ∧ disk.Usable file := by
  have husable : disk.Usable file ↔ file.readOnly = false ∧
      (∀ place, file.place = some place → disk.hasRoom file place = true) ∧
      ∀ place, file.place = some place → ∀ q ∈ Path.besides place,
        disk.get? q ≠ some .directory :=
    ⟨fun h => ⟨h.writable, h.named, h.clear⟩, fun h => ⟨h.1, h.2.1, h.2.2⟩⟩
  rw [husable]
  cases hplace : file.place with
  | none =>
      cases hcontent : file.content <;> cases hread : file.readOnly <;>
        simp [contentOf, barrier?, hasIndex, canWrite, hplace, hcontent, hread]
  | some place =>
      simp only [Option.some.injEq, forall_eq', Path.besides, List.forall_mem_cons,
        List.not_mem_nil, false_implies, implies_true, and_true, ← isDirectory_eq_false]
      simp only [contentOf, barrier?, hasIndex, canWrite, hplace]
      cases disk.isDirectory (Path.log place) <;> cases disk.isDirectory (Path.index place) <;>
        cases disk.isDirectory (Path.journal place) <;> cases file.content <;>
        cases file.readOnly <;> cases disk.hasRoom file place <;> cases file.isNew <;>
        cases disk.usesLog file place <;> simp

theorem openDatabase_eq_ok :
    disk.openDatabase path = .ok (file, content) ↔
      disk.openFile path = .ok file ∧ file.content = some content ∧ disk.Usable file := by
  unfold openDatabase
  cases hfile : disk.openFile path with
  | error fault => simp [Except.mapError]
  | ok found =>
      simp only [Except.mapError, Steps.bind_ok, Except.ok.injEq]
      constructor
      · intro h
        obtain ⟨kept, hkept, h⟩ := Steps.bind_eq_ok.mp h
        cases h
        cases hcontent : disk.contentOf file with
        | error refusal =>
            rw [hcontent] at hkept
            cases hkept
        | ok held =>
            rw [hcontent] at hkept
            cases hkept
            exact ⟨rfl, contentOf_eq_ok.mp hcontent⟩
      · rintro ⟨rfl, hcontent⟩
        rw [contentOf_eq_ok.mpr hcontent]
        rfl

theorem openFile_eq_ok :
    disk.openFile path = .ok file ↔
      ¬ path.toList.contains (Char.ofNat 0) = true ∧
      ∃ location, Location.ofText path = .ok location ∧
        if location.isInMemory then file = .inMemory
        else ∃ place, disk.locate? location.path = some place ∧
          disk.fileAt? place location.access = some file := by
  unfold openFile
  split
  next hnul =>
    constructor
    · intro h
      cases h
    · rintro ⟨hfree, _⟩
      exact absurd hnul hfree
  next hnul =>
    rw [Steps.bind_eq_ok, and_iff_right hnul]
    refine exists_congr fun location => and_congr_right fun _ => ?_
    split
    · exact ⟨fun h => (Except.ok.inj h).symm, fun h => h ▸ rfl⟩
    · cases hfound : (disk.locate? location.path).bind (disk.fileAt? · location.access) with
      | none =>
          constructor
          · intro h
            cases h
          · intro h
            rw [Option.bind_eq_some_iff.mpr h] at hfound
            cases hfound
      | some found =>
          rw [← Option.bind_eq_some_iff, hfound]
          exact ⟨fun h => congrArg some (Except.ok.inj h),
            fun h => congrArg Except.ok (Option.some.inj h)⟩

theorem fileAt?_of_database {layout : Layout}
    (h : disk.get? place = some (.database content layout)) :
    disk.fileAt? place access =
      some ⟨some place, some content, layout, false, access == .readOnly⟩ := by
  rw [fileAt?, h]
  rfl

theorem readOnly_of_fileAt? (h : disk.fileAt? place access = some file) :
    file.readOnly = (access == .readOnly) := by
  unfold fileAt? at h
  split at h
  · cases h
  · cases h; rfl
  · cases h; rfl
  · split at h
    · cases h; rfl
    · cases h

theorem place_of_fileAt? (h : disk.fileAt? place access = some file) :
    file.place = some place ∧ disk.get? place ≠ some .directory := by
  unfold fileAt? at h
  split at h
  · cases h
  next hentry => cases h; exact ⟨rfl, by simp [hentry]⟩
  next hentry => cases h; exact ⟨rfl, by simp [hentry]⟩
  next hentry =>
    split at h
    · cases h; exact ⟨rfl, by simp [hentry]⟩
    · cases h

theorem isTop_of_get?_ne (h : disk.get? place ≠ some .directory) : Path.isTop place = false :=
  Bool.eq_false_iff.mpr fun htop => h (if_pos htop)

/-- A path is that of a file, not of a database in memory. -/
structure IsFile (path : String) (location : Location) : Prop where
  noNul : ¬ path.toList.contains (Char.ofNat 0) = true
  read : Location.ofText path = .ok location
  onDisk : location.isInMemory = false

theorem IsFile.openDatabase_eq_ok {location : Location} (hpath : IsFile path location) :
    disk.openDatabase path = .ok (file, content) ↔
      (∃ place, disk.locate? location.path = some place ∧
        disk.fileAt? place location.access = some file) ∧
      file.content = some content ∧ disk.Usable file := by
  rw [Disk.openDatabase_eq_ok, openFile_eq_ok, hpath.read]
  refine and_congr_left fun _ => ?_
  constructor
  · rintro ⟨_, found, hsame, hat⟩
    cases hsame
    rwa [if_neg (Bool.eq_false_iff.mp hpath.onDisk)] at hat
  · intro hat
    refine ⟨hpath.noNul, location, rfl, ?_⟩
    rwa [if_neg (Bool.eq_false_iff.mp hpath.onDisk)]

/-- A path leads to a file or, on any disk, to a database in memory. -/
theorem isFile_or_inMemory (hopen : disk.openDatabase path = .ok (file, content)) :
    (∃ location, IsFile path location) ∨
      ∀ other : Disk, other.openDatabase path = .ok (.inMemory, .empty) := by
  obtain ⟨hfile, _, _⟩ := openDatabase_eq_ok.mp hopen
  obtain ⟨hnul, location, hlocation, _⟩ := openFile_eq_ok.mp hfile
  cases hmemory : location.isInMemory with
  | false => exact .inl ⟨location, hnul, hlocation, hmemory⟩
  | true =>
      refine .inr fun other => openDatabase_eq_ok.mpr
        ⟨openFile_eq_ok.mpr ?_, rfl, usable_inMemory other⟩
      refine ⟨hnul, location, hlocation, ?_⟩
      rw [if_pos hmemory]

end Open

end Disk

/-! ## Opening again -/

/-- What a file holds after a database was left in it. What is in memory is lost. -/
def DatabaseFile.keeps (file : DatabaseFile) (left : Store.Database) : Store.Database :=
  match file.place with
  | some _ => left
  | none => .empty

theorem DatabaseFile.keeps_congr {file again : DatabaseFile} (h : again.place = file.place)
    (left : Store.Database) : again.keeps left = file.keeps left := by
  rw [keeps, keeps, h]

namespace Disk

/-- Opening does not go on behind the place of a database that is yet to be made. -/
def Steady (disk : Disk) (path : String) : Prop :=
  ∀ location, IsFile path location →
    (disk.get? (Path.ofText location.path)).isSome ∨ ".." ∉ Path.names location.path

theorem steady_of_not_mem {path : String} {location : Location}
    (hread : Location.ofText path = .ok location) (hback : ".." ∉ Path.names location.path)
    (disk : Disk) : disk.Steady path := by
  intro other hpath
  cases hread.symm.trans hpath.read
  exact .inr hback

/-- There is what was there, or nothing. -/
def ThinnerAt (disk other : Disk) (place : Path) : Prop :=
  other.get? place = disk.get? place ∨ other.get? place = none

/-- A database is in a file, and elsewhere is nothing that was not there before. -/
structure Leaves (disk other : Disk) (file : DatabaseFile) (left : Store.Database) : Prop where
  here : ∀ place, file.place = some place →
    other.get? place = some (.database left (file.layoutFor left))
  elsewhere : ∀ place, file.place ≠ some place → ThinnerAt disk other place
  memory : file.place = none → other = disk

section Again

variable {disk other : Disk} {path : String} {file again : DatabaseFile} {place : Path}
  {content left kept : Store.Database}

theorem isTop_of_openDatabase (hopen : disk.openDatabase path = .ok (file, content))
    (hplace : file.place = some place) : Path.isTop place = false := by
  rcases isFile_or_inMemory hopen with ⟨location, hpath⟩ | hmemory
  · obtain ⟨⟨found, _, hfound⟩, _, _⟩ := hpath.openDatabase_eq_ok.mp hopen
    obtain ⟨hsame, hentry⟩ := place_of_fileAt? hfound
    rw [hsame] at hplace
    cases hplace
    exact isTop_of_get?_ne hentry
  · rw [hmemory disk] at hopen
    cases hopen
    cases hplace

/-- What is found where a database was left is what was left. -/
theorem eq_of_openDatabase {layout : Layout}
    (hhere : ∀ place, file.place = some place →
      other.get? place = some (.database left layout))
    (hopen : disk.openDatabase path = .ok (file, content))
    (hagain : other.openDatabase path = .ok (again, kept)) :
    kept = file.keeps left ∧ again.place = file.place := by
  rcases isFile_or_inMemory hopen with ⟨location, hpath⟩ | hmemory
  · obtain ⟨⟨place, hlocate, hfound⟩, _, _⟩ := hpath.openDatabase_eq_ok.mp hopen
    obtain ⟨⟨place', hlocate', hfound'⟩, hkept, _⟩ := hpath.openDatabase_eq_ok.mp hagain
    have hplace := (place_of_fileAt? hfound).1
    rw [eq_ofText_of_locate? hlocate', ← eq_ofText_of_locate? hlocate,
      fileAt?_of_database (hhere place hplace)] at hfound'
    cases hfound'
    rw [DatabaseFile.keeps, hplace]
    exact ⟨(Option.some.inj hkept).symm, rfl⟩
  · rw [hmemory disk] at hopen
    rw [hmemory other] at hagain
    cases hopen
    cases hagain
    exact ⟨rfl, rfl⟩

theorem Leaves.eq_of_openDatabase (hleaves : Leaves disk other file left)
    (hopen : disk.openDatabase path = .ok (file, content))
    (hagain : other.openDatabase path = .ok (again, kept)) :
    kept = file.keeps left ∧ again.place = file.place :=
  Disk.eq_of_openDatabase hleaves.here hopen hagain

theorem Leaves.freerAt (hleaves : Leaves disk other file left)
    (hplace : file.place ≠ some place) : FreerAt disk other place := by
  rcases hleaves.elsewhere place hplace with hsame | hgone
  · exact .inl hsame
  · exact .inr (.inl hgone)

theorem ThinnerAt.ne_directory (hthinner : ThinnerAt disk other place)
    (h : disk.get? place ≠ some .directory) : other.get? place ≠ some .directory := by
  rcases hthinner with hsame | hgone
  · rwa [hsame]
  · rw [hgone]
    rintro ⟨⟩

theorem nameSize_le_of_hasRoom (hroom : disk.hasRoom file place = true) :
    Path.nameSize place ≤ DatabaseFile.maxLoggedSize := by
  refine Nat.le_trans (of_decide_eq_true hroom) ?_
  split <;> decide

theorem hasRoom_of_logged (hroom : disk.hasRoom file place = true) (hnew : again.isNew = false)
    (hlogged : again.layout.logged = true) : other.hasRoom again place = true := by
  refine decide_eq_true ?_
  rw [usesLog, hnew, hlogged, Bool.true_or, Bool.not_false, Bool.true_and, if_pos rfl]
  exact nameSize_le_of_hasRoom hroom

theorem logged_layoutFor (hplace : file.place = some place) (content : Store.Database) :
    (file.layoutFor content).logged = true := by
  rw [DatabaseFile.layoutFor, hplace]
  rfl

/-- Beside a database that was left are no directories that were not there before. -/
theorem Leaves.usable (hleaves : Leaves disk other file left) (husable : disk.Usable file)
    (hplace : file.place = some place) {readOnly : Bool} (hread : file.readOnly = readOnly) :
    other.Usable ⟨some place, some left, file.layoutFor left, false, readOnly⟩ where
  writable := hread ▸ husable.writable
  named := by
    rintro found ⟨⟩
    exact hasRoom_of_logged (husable.named place hplace) rfl (logged_layoutFor hplace left)
  clear := by
    rintro found ⟨⟩ q hq
    have hne : file.place ≠ some q := by
      rw [hplace]
      rintro ⟨⟩
      exact Path.not_mem_besides_self place hq
    exact (hleaves.elsewhere q hne).ne_directory (husable.clear place hplace q hq)

theorem Leaves.exists_openDatabase (hleaves : Leaves disk other file left)
    (hopen : disk.openDatabase path = .ok (file, content)) (hsteady : disk.Steady path) :
    ∃ again, other.openDatabase path = .ok (again, file.keeps left) := by
  rcases isFile_or_inMemory hopen with ⟨location, hpath⟩ | hmemory
  · obtain ⟨⟨place, hlocate, hfound⟩, _, husable⟩ := hpath.openDatabase_eq_ok.mp hopen
    obtain ⟨hplace, hentry⟩ := place_of_fileAt? hfound
    have hthrough : other.locate? location.path = some place := by
      obtain ⟨hnames, hsize⟩ := locate?_eq_some.mp hlocate
      refine locate?_eq_some.mpr ⟨foldlM_goOn?_of_freer ?_ hnames, hsize⟩
      intro before hbefore
      by_cases hne : before = place
      · -- The way leads through the file's own place: that stopped the first walk if it was there.
        subst hne
        rcases hsteady location hpath with hsome | hback
        · rw [← eq_ofText_of_locate? hlocate] at hsome
          obtain ⟨entry, hthere⟩ := Option.isSome_iff_exists.mp hsome
          exact .inr (.inr ⟨entry, hthere, fun hdir => hentry (hdir ▸ hthere)⟩)
        · rcases hbefore with hlt | hmem
          · omega
          · exact absurd hmem hback
      · apply hleaves.freerAt
        rw [hplace]
        exact fun hsame => hne (Option.some.inj hsame).symm
    rw [DatabaseFile.keeps, hplace]
    refine ⟨_, hpath.openDatabase_eq_ok.mpr
      ⟨⟨place, hthrough, fileAt?_of_database (hleaves.here place hplace)⟩, rfl, ?_⟩⟩
    exact hleaves.usable husable hplace (readOnly_of_fileAt? hfound)
  · rw [hmemory disk] at hopen
    cases hopen
    exact ⟨_, hmemory other⟩

theorem Leaves.steady (hleaves : Leaves disk other file left)
    (hopen : disk.openDatabase path = .ok (file, content)) (hsteady : disk.Steady path) :
    other.Steady path := by
  intro location hpath
  cases hplace : file.place with
  | none =>
      rw [hleaves.memory hplace]
      exact hsteady location hpath
  | some place =>
      obtain ⟨⟨found, hlocate, hfound⟩, _, _⟩ := hpath.openDatabase_eq_ok.mp hopen
      rw [(place_of_fileAt? hfound).1] at hplace
      cases hplace
      rw [← eq_ofText_of_locate? hlocate, hleaves.here place (place_of_fileAt? hfound).1]
      exact .inl rfl

/-! ## Places of a database in use -/

theorem ThinnerAt.trans {third : Disk} (h : ThinnerAt disk other place)
    (hnext : ThinnerAt other third place) : ThinnerAt disk third place := by
  rcases hnext with hsame | hgone
  · rw [ThinnerAt, hsame]
    exact h
  · exact .inr hgone

theorem thinnerAt_of_isTop (htop : Path.isTop place = true) (disk other : Disk) :
    ThinnerAt disk other place :=
  .inl (by rw [get?, get?, if_pos htop, if_pos htop])

theorem thinnerAt_erase (disk : Disk) (path place : Path) :
    ThinnerAt disk (disk.erase path) place := by
  by_cases hsame : path = place
  · subst hsame
    cases htop : Path.isTop path with
    | true => exact thinnerAt_of_isTop htop _ _
    | false => exact .inr (get?_erase_self htop disk)
  · exact .inl (get?_erase_of_ne hsame disk)

theorem thinnerAt_put {entry : Entry} {path : Path} (hne : path ≠ place) (disk : Disk) :
    ThinnerAt disk (disk.put path entry) place :=
  .inl (get?_put_of_ne hne entry disk)

theorem thinnerAt_withoutJournal (disk : Disk) (path place : Path) (isNew rewritten : Bool) :
    ThinnerAt disk (disk.withoutJournal path isNew rewritten) place := by
  unfold withoutJournal
  split
  · exact .inl rfl
  · exact .inl rfl
  · split
    · exact thinnerAt_erase ..
    · exact .inl rfl

theorem thinnerAt_withLog {path : Path} (hlog : Path.log path ≠ place)
    (hindex : Path.index path ≠ place) (disk : Disk) (isNew changed : Bool) :
    ThinnerAt disk (disk.withLog path isNew changed) place := by
  unfold withLog
  split
  · exact (thinnerAt_put hlog _).trans (thinnerAt_put hindex _)
  · split
    · exact thinnerAt_erase ..
    · exact (thinnerAt_put hlog _).trans (thinnerAt_put hindex _)

theorem duringUse_of_place (hplace : file.place = some place) (disk : Disk)
    (content : Store.Database) :
    disk.duringUse file content =
      ((disk.withoutJournal place file.isNew !file.layout.logged).withLog place file.isNew
        (file.content != some content)).put place (.database content (file.layoutFor content)) := by
  unfold duringUse
  rw [hplace]
  simp only [save, hplace]

theorem get?_duringUse_place (hplace : file.place = some place)
    (htop : Path.isTop place = false) (disk : Disk) (content : Store.Database) :
    (disk.duringUse file content).get? place =
      some (.database content (file.layoutFor content)) := by
  rw [duringUse_of_place hplace]
  exact get?_put_self htop _ _

theorem thinnerAt_duringUse {path : Path} (hplace : file.place = some path) (hne : path ≠ place)
    (hlog : Path.log path ≠ place) (hindex : Path.index path ≠ place) (disk : Disk) :
    ThinnerAt disk (disk.duringUse file content) place := by
  rw [duringUse_of_place hplace]
  exact ((thinnerAt_withoutJournal ..).trans (thinnerAt_withLog hlog hindex ..)).trans
    (thinnerAt_put hne _)

theorem closed_of_place (hplace : file.place = some place) {during : Disk}
    (hthere : (during.get? place).isSome) (content : Store.Database) :
    during.closed file content =
      ((during.erase (Path.log place)).erase (Path.index place)).put place
        (.database content (file.layoutFor content)) := by
  obtain ⟨entry, hentry⟩ := Option.isSome_iff_exists.mp hthere
  unfold closed
  rw [hplace]
  simp only [save, hplace, hentry, Option.isNone_some, Bool.false_eq_true, if_false]

theorem closed_of_inMemory (hplace : file.place = none) (during : Disk)
    (content : Store.Database) : during.closed file content = during := by
  rw [closed, hplace]

theorem get?_closed_place (hplace : file.place = some place) (htop : Path.isTop place = false)
    {during : Disk} (hthere : (during.get? place).isSome) (content : Store.Database) :
    (during.closed file content).get? place =
      some (.database content (file.layoutFor content)) := by
  rw [closed_of_place hplace hthere]
  exact get?_put_self htop _ _

theorem get?_closed_log (hplace : file.place = some place) {during : Disk}
    (hthere : (during.get? place).isSome) (content : Store.Database) :
    (during.closed file content).get? (Path.log place) = none := by
  rw [closed_of_place hplace hthere, get?_put_of_ne (Path.log_ne_self place).symm,
    get?_erase_of_ne (Path.log_ne_index place).symm]
  exact get?_erase_self (Path.isTop_log place) _

theorem get?_closed_index (hplace : file.place = some place) {during : Disk}
    (hthere : (during.get? place).isSome) (content : Store.Database) :
    (during.closed file content).get? (Path.index place) = none := by
  rw [closed_of_place hplace hthere, get?_put_of_ne (Path.index_ne_self place).symm]
  exact get?_erase_self (Path.isTop_index place) _

theorem thinnerAt_closed (hplace : file.place ≠ some place) (during : Disk)
    (content : Store.Database) : ThinnerAt during (during.closed file content) place := by
  cases hfile : file.place with
  | none => exact .inl (by rw [closed_of_inMemory hfile])
  | some house =>
      have hne : house ≠ place := fun hsame => hplace (hsame ▸ hfile)
      cases hthere : during.get? house with
      | none =>
          simp only [closed, hfile, hthere, Option.isNone_none, if_true]
          exact .inl rfl
      | some entry =>
          rw [closed_of_place hfile (hthere ▸ rfl)]
          exact ((thinnerAt_erase ..).trans (thinnerAt_erase ..)).trans (thinnerAt_put hne _)

theorem afterUse_of_inMemory (hplace : file.place = none) (disk : Disk)
    (content : Store.Database) : disk.afterUse file content = disk := by
  rw [afterUse, closed_of_inMemory hplace, duringUse, hplace]

/-- Once a database is closed, nothing is left of what was beside it while it was in use. -/
theorem leaves_afterUse (hopen : disk.openDatabase path = .ok (file, content))
    (left : Store.Database) : Leaves disk (disk.afterUse file left) file left := by
  cases hplace : file.place with
  | none =>
      rw [afterUse_of_inMemory hplace]
      exact ⟨by simp [hplace], fun _ _ => .inl rfl, fun _ => rfl⟩
  | some place =>
      have htop := isTop_of_openDatabase hopen hplace
      have hthere : ((disk.duringUse file left).get? place).isSome := by
        rw [get?_duringUse_place hplace htop]
        rfl
      refine ⟨?_, ?_, by simp [hplace]⟩
      · intro found hfound
        cases hplace.symm.trans hfound
        exact get?_closed_place hplace htop hthere left
      · intro other hother
        by_cases hlog : Path.log place = other
        · subst hlog
          exact .inr (get?_closed_log hplace hthere left)
        by_cases hindex : Path.index place = other
        · subst hindex
          exact .inr (get?_closed_index hplace hthere left)
        have hne : place ≠ other := fun hsame => hother (hsame ▸ hplace)
        exact (thinnerAt_duringUse hplace hne hlog hindex disk).trans
          (thinnerAt_closed hother _ left)

end Again

end Disk

end PaymentOrders
