import PaymentOrders.Proofs.Disk.Use
/-!
# Databases that are found again after errands

A database whose path leads through directories is found again after a use, whatever was done with
other files meanwhile, if its own file was still there when it was closed and no directory took the
place of its journal.
-/

namespace PaymentOrders

/-- Two files are of one database: at one place, with pages of one size if that is on the disk, and
with text in one encoding if that is agreed on. -/
structure DatabaseFile.Resembles (agreed : Prop) (file again : DatabaseFile) : Prop where
  place : again.place = file.place
  pageSize : file.place.isSome → again.layout.pageSize = file.layout.pageSize
  encoding : agreed → ∀ encoding, file.layout.encoding = some encoding →
    again.layout.encoding = some encoding

namespace DatabaseFile

variable {file again third : DatabaseFile} {agreed agreed' : Prop}

theorem Resembles.refl (agreed : Prop) (file : DatabaseFile) : Resembles agreed file file :=
  ⟨rfl, fun _ => rfl, fun _ _ h => h⟩

theorem Resembles.trans (h : Resembles agreed file again) (hnext : Resembles agreed' again third) :
    Resembles (agreed ∧ agreed') file third where
  place := hnext.place.trans h.place
  pageSize hsome := (hnext.pageSize (h.place ▸ hsome)).trans (h.pageSize hsome)
  encoding hagreed encoding hfile :=
    hnext.encoding hagreed.2 encoding (h.encoding hagreed.1 encoding hfile)

end DatabaseFile

namespace Disk

variable {disk during : Disk} {path : String} {file shut : DatabaseFile}
  {content left : Store.Database} {touched made : Path → Prop}

/-- A database that is found at a path, the way to which lies in directories. -/
structure Housed (disk : Disk) (path : String) : Prop where
  opens : ∃ opened, disk.openDatabase path = .ok opened
  way : ∀ location, IsFile path location →
    disk.Reaches (Path.start location.path) (Path.names location.path)

/-- What has to be so before a database is closed, for it to be found again. -/
structure Spared (path : String) (disk during : Disk) : Prop where
  directories : KeepsDirectories disk during
  there : ∀ house, Names path house → (during.get? house).isSome
  clear : ∀ house, Names path house → ∀ q ∈ Path.files house, during.get? q ≠ some .directory

theorem openFile_of_openDatabase (hopen : disk.openDatabase path = .ok (file, content)) :
    disk.openFile path = .ok file :=
  (openDatabase_eq_ok.mp hopen).1

theorem names_of_openDatabase (hopen : disk.openDatabase path = .ok (file, content))
    (house : Path) (hplace : file.place = some house) : Names path house :=
  (names_of_openFile (openFile_of_openDatabase hopen) hplace).1

theorem spared_duringUse (hopen : disk.openDatabase path = .ok (file, content))
    (left : Store.Database) : Spared path disk (disk.duringUse file left) := by
  have hfile := openFile_of_openDatabase hopen
  have husable := (openDatabase_eq_ok.mp hopen).2.2
  have hframe := frame_duringUse hfile husable left
  refine ⟨hframe.keepsDirectories, ?_, ?_⟩
  · intro house hnames
    have hplace := hnames.place_eq hfile
    rw [get?_duringUse_place hplace (isTop_of_openFile hfile hplace)]
    rfl
  · intro house hnames q hq
    have hplace := hnames.place_eq hfile
    refine hframe.ne_directory ?_ not_false
    rcases List.mem_cons.mp hq with rfl | hbeside
    · exact (names_of_openFile hfile hplace).2
    · exact husable.clear house hplace q hbeside

theorem Spared.frame {after : Disk} (hspared : Spared path disk during)
    (hframe : Frame touched made during after)
    (hthere : ∀ house, Names path house → (after.get? house).isSome)
    (hmade : ∀ house, Names path house → ∀ q ∈ Path.files house, ¬ made q) :
    Spared path disk after where
  directories q hq := hframe.keepsDirectories q (hspared.directories q hq)
  there := hthere
  clear house hnames q hq :=
    hframe.ne_directory (hspared.clear house hnames q hq) (hmade house hnames q hq)

section Closed

variable (hopen : disk.openDatabase path = .ok (file, content))
  (hspared : Spared path disk during)

include hopen hspared

section

variable (hshut : shut.place = file.place)

include hshut

theorem Spared.frame_closed (left : Store.Database) :
    Frame (Owns path) nowhere during (during.closed shut left) := by
  have hnames := names_of_openDatabase hopen
  rw [← hshut] at hnames
  refine Disk.frame_closed hnames ?_ left
  intro house hplace
  have hclear := hspared.clear house (hnames house hplace)
  exact ⟨hclear _ (List.mem_cons_self ..),
    hclear _ (List.mem_cons_of_mem _ (Path.log_mem_besides house)),
    hclear _ (List.mem_cons_of_mem _ (Path.index_mem_besides house))⟩

theorem Spared.keepsDirectories (left : Store.Database) :
    KeepsDirectories disk (during.closed shut left) := by
  intro q hq
  exact (hspared.frame_closed hopen hshut left).keepsDirectories q (hspared.directories q hq)

/-- What was left in a database is found again. -/
theorem Housed.reopen (hhoused : disk.Housed path) (left : Store.Database) :
    ∃ again, (during.closed shut left).openDatabase path = .ok (again, file.keeps left) ∧
      again.place = file.place ∧ (file.place.isSome → again.layout = shut.layoutFor left) := by
  rcases isFile_or_inMemory hopen with ⟨location, hpath⟩ | hmemory
  · obtain ⟨⟨house, hlocate, hfound⟩, _, husable⟩ := hpath.openDatabase_eq_ok.mp hopen
    obtain ⟨hplace, _⟩ := place_of_fileAt? hfound
    have hnames := names_of_openDatabase hopen house hplace
    have hway := hhoused.way location hpath
    have hthere := get?_closed_place (hshut.trans hplace) (isTop_of_openDatabase hopen hplace)
      (hspared.there house hnames) left
    rw [DatabaseFile.keeps, hplace]
    refine ⟨_, hpath.openDatabase_eq_ok.mpr
      ⟨⟨house, ?_, fileAt?_of_database hthere⟩, rfl, ?_⟩, rfl, fun _ => rfl⟩
    · rw [locate?_congr hway (hway.mono (hspared.keepsDirectories hopen hshut left)), hlocate]
    · refine ⟨?_, ?_, ?_⟩
      · rw [← readOnly_of_fileAt? hfound]
        exact husable.writable
      · rintro _ ⟨⟩
        exact hasRoom_of_logged (husable.named house hplace) rfl
          (logged_layoutFor (hshut.trans hplace) left)
      · rintro _ ⟨⟩ q hq
        exact (hspared.frame_closed hopen hshut left).ne_directory
          (hspared.clear house hnames q (List.mem_cons_of_mem _ hq)) not_false
  · rw [hmemory disk] at hopen
    cases hopen
    exact ⟨_, hmemory _, rfl, fun hsome => absurd hsome (by decide)⟩

theorem Housed.closed (hhoused : disk.Housed path) (left : Store.Database) :
    (during.closed shut left).Housed path := by
  obtain ⟨again, hagain, _⟩ := hhoused.reopen hopen hspared hshut left
  exact ⟨⟨_, hagain⟩, fun location hpath =>
    (hhoused.way location hpath).mono (hspared.keepsDirectories hopen hshut left)⟩

end

end Closed

end Disk

end PaymentOrders
