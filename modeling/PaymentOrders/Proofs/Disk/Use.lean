import PaymentOrders.Proofs.Disk.Ways
/-!
# What the use of a database leaves alone

A use of a database and the writing or reading of a copy touch the files of that database and those
of the copy: its own file, and the log, the index and the journal beside it, whoever put them there.
Everything else stays, directories stay even there, and directories are only made on the way to a
copy.
-/

namespace PaymentOrders

namespace Path

def files (place : Path) : List Path :=
  place :: besides place

theorem log_mem_besides (place : Path) : log place ∈ besides place :=
  List.mem_cons_self ..

theorem index_mem_besides (place : Path) : index place ∈ besides place :=
  List.mem_cons_of_mem _ (List.mem_cons_self ..)

theorem journal_mem_besides (place : Path) : journal place ∈ besides place :=
  List.mem_cons_of_mem _ (List.mem_cons_of_mem _ (List.mem_cons_self ..))

end Path

namespace Disk

variable {disk middle other : Disk} {path target : String} {q place : Path} {entry : Entry}
  {file : DatabaseFile} {content : Store.Database} {touched touched' made made' : Path → Prop}

/-! ## Places that paths name -/

/-- A path is that of a file at a place. -/
def Names (path : String) (place : Path) : Prop :=
  ∃ location, IsFile path location ∧ Path.ofText location.path = place

/-- The path is that of a database that has its file at a place. -/
def Owns (path : String) (q : Path) : Prop :=
  ∃ place, Names path place ∧ q ∈ Path.files place

/-- The path is that of a database that has its journal, its log or the index of that at a place. -/
def Neighbours (path : String) (q : Path) : Prop :=
  ∃ place, Names path place ∧ q ∈ Path.besides place

theorem Names.eq_ofText {location : Location} (hnames : Names path place)
    (hread : Location.ofText path = .ok location) : place = Path.ofText location.path := by
  obtain ⟨found, hpath, rfl⟩ := hnames
  cases hread.symm.trans hpath.read
  rfl

theorem Neighbours.mem {location : Location} (h : Neighbours path q)
    (hread : Location.ofText path = .ok location) :
    q ∈ Path.besides (Path.ofText location.path) := by
  obtain ⟨place, hnames, hq⟩ := h
  rwa [hnames.eq_ofText hread] at hq

theorem names_of_openFile (hfile : disk.openFile path = .ok file)
    (hplace : file.place = some place) : Names path place ∧ disk.get? place ≠ some .directory := by
  obtain ⟨hnul, location, hlocation, hat⟩ := openFile_eq_ok.mp hfile
  split at hat
  · subst hat
    cases hplace
  next hmemory =>
    obtain ⟨found, hlocate, hfound⟩ := hat
    obtain ⟨hsame, hentry⟩ := place_of_fileAt? hfound
    cases hplace.symm.trans hsame
    have hpath : IsFile path location := ⟨hnul, hlocation, Bool.eq_false_iff.mpr hmemory⟩
    exact ⟨⟨location, hpath, (eq_ofText_of_locate? hlocate).symm⟩, hentry⟩

theorem Names.place_eq (hnames : Names path place) (hfile : disk.openFile path = .ok file) :
    file.place = some place := by
  obtain ⟨location, hpath, rfl⟩ := hnames
  obtain ⟨_, found, hfound, hat⟩ := openFile_eq_ok.mp hfile
  cases hpath.read.symm.trans hfound
  rw [if_neg (Bool.eq_false_iff.mp hpath.onDisk)] at hat
  obtain ⟨place, hlocate, hfile⟩ := hat
  rw [(place_of_fileAt? hfile).1, eq_ofText_of_locate? hlocate]

theorem isTop_of_openFile (hfile : disk.openFile path = .ok file)
    (hplace : file.place = some place) : Path.isTop place = false :=
  isTop_of_get?_ne (names_of_openFile hfile hplace).2

/-! ## Frames -/

/-- What is at a place that was not touched stays, every directory stays, and there is a new one
only where it was made. -/
structure Frame (touched made : Path → Prop) (disk other : Disk) : Prop where
  keeps : ∀ q entry, disk.get? q = some entry → entry = .directory ∨ ¬ touched q →
    other.get? q = some entry
  makes : ∀ q, other.get? q = some .directory → disk.get? q = some .directory ∨ made q

def nowhere (_ : Path) : Prop := False

theorem text_ne_directory (text : String) : Entry.text text ≠ .directory := by
  rintro ⟨⟩

theorem database_ne_directory (content : Store.Database) (layout : Layout) :
    Entry.database content layout ≠ .directory := by
  rintro ⟨⟩

namespace Frame

theorem refl (disk : Disk) : Frame touched made disk disk :=
  ⟨fun _ _ hq _ => hq, fun _ hq => .inl hq⟩

theorem trans (h : Frame touched made disk middle) (hnext : Frame touched made middle other) :
    Frame touched made disk other where
  keeps q entry hq hspared := hnext.keeps q entry (h.keeps q entry hq hspared) hspared
  makes q hq := by
    rcases hnext.makes q hq with hthere | hmade
    · exact h.makes q hthere
    · exact .inr hmade

theorem mono (h : Frame touched made disk other) (htouched : ∀ q, touched q → touched' q)
    (hmade : ∀ q, made q → made' q) : Frame touched' made' disk other where
  keeps q entry hq hspared := h.keeps q entry hq (hspared.imp_right (mt (htouched q)))
  makes q hq := (h.makes q hq).imp_right (hmade q)

theorem widen (h : Frame touched nowhere disk other) (htouched : ∀ q, touched q → touched' q) :
    Frame touched' made disk other :=
  h.mono htouched fun _ hnowhere => hnowhere.elim

theorem keepsDirectories (h : Frame touched made disk other) : KeepsDirectories disk other :=
  fun q hq => h.keeps q .directory hq (.inl rfl)

theorem ne_directory (h : Frame touched made disk other) (hq : disk.get? q ≠ some .directory)
    (hmade : ¬ made q) : other.get? q ≠ some .directory := by
  intro hnew
  rcases h.makes q hnew with hthere | hmine
  · exact hq hthere
  · exact hmade hmine

theorem put (hentry : entry ≠ .directory) (hplace : disk.get? place ≠ some .directory) :
    Frame (· = place) nowhere disk (disk.put place entry) where
  keeps q found hq hspared := by
    have hne : place ≠ q := by
      rintro rfl
      rcases hspared with rfl | hother
      · exact hplace hq
      · exact hother rfl
    rwa [get?_put_of_ne hne]
  makes q hq := by
    by_cases hsame : place = q
    · subst hsame
      rw [get?_put_self (isTop_of_get?_ne hplace)] at hq
      exact absurd (Option.some.inj hq) hentry
    · rw [get?_put_of_ne hsame] at hq
      exact .inl hq

theorem erase (hplace : disk.get? place ≠ some .directory) :
    Frame (· = place) nowhere disk (disk.erase place) where
  keeps q found hq hspared := by
    have hne : place ≠ q := by
      rintro rfl
      rcases hspared with rfl | hother
      · exact hplace hq
      · exact hother rfl
    rwa [get?_erase_of_ne hne]
  makes q hq := by
    rcases thinnerAt_erase disk place q with hsame | hgone
    · rw [hsame] at hq
      exact .inl hq
    · rw [hgone] at hq
      cases hq

end Frame

/-! ## Frames of a use -/

theorem frame_withoutJournal (disk : Disk) (place : Path) (isNew rewritten : Bool) :
    Frame (· = Path.journal place) nowhere disk (disk.withoutJournal place isNew rewritten) := by
  unfold withoutJournal
  split
  · exact .refl disk
  · exact .refl disk
  next found hdirectory hfound =>
    split
    · refine .erase ?_
      rw [hfound]
      exact fun hsame => hdirectory (Option.some.inj hsame)
    · exact .refl disk

theorem getD_ne_directory (h : disk.get? q ≠ some .directory) :
    (disk.get? q).getD (.text "") ≠ .directory := by
  cases hentry : disk.get? q with
  | none => rintro ⟨⟩
  | some entry =>
      rintro rfl
      exact h hentry

theorem frame_withLog (hlog : disk.get? (Path.log place) ≠ some .directory)
    (hindex : disk.get? (Path.index place) ≠ some .directory) (isNew changed : Bool) :
    Frame (· ∈ Path.besides place) nowhere disk (disk.withLog place isNew changed) := by
  have hput {entry : Entry} (hentry : entry ≠ .directory) :
      Frame (· ∈ Path.besides place) nowhere disk
        ((disk.put (Path.log place) entry).put (Path.index place) working) := by
    have hfirst := Frame.put hentry hlog
    have hnext := Frame.put (text_ne_directory "log") (hfirst.ne_directory hindex not_false)
    exact (hfirst.widen (by rintro _ rfl; exact Path.log_mem_besides place)).trans
      (hnext.widen (by rintro _ rfl; exact Path.index_mem_besides place))
  unfold withLog
  split
  · exact hput (text_ne_directory "log")
  · split
    · exact (Frame.erase hlog).widen (by rintro _ rfl; exact Path.log_mem_besides place)
    · exact hput (getD_ne_directory hlog)

theorem frame_duringUse (hfile : disk.openFile path = .ok file) (husable : disk.Usable file)
    (content : Store.Database) :
    Frame (Owns path) nowhere disk (disk.duringUse file content) := by
  cases hplace : file.place with
  | none =>
      rw [duringUse, hplace]
      exact .refl disk
  | some place =>
      obtain ⟨hnames, hentry⟩ := names_of_openFile hfile hplace
      have hclear := husable.clear place hplace
      have hjournal := frame_withoutJournal disk place file.isNew !file.layout.logged
      have hlog := frame_withLog
        (hjournal.ne_directory (hclear _ (Path.log_mem_besides place)) not_false)
        (hjournal.ne_directory (hclear _ (Path.index_mem_besides place)) not_false)
        file.isNew (file.content != some content)
      have hput := Frame.put (database_ne_directory content (file.layoutFor content))
        (hlog.ne_directory (hjournal.ne_directory hentry not_false) not_false)
      have hbeside : ∀ q ∈ Path.besides place, Owns path q :=
        fun q hq => ⟨place, hnames, List.mem_cons_of_mem _ hq⟩
      rw [duringUse_of_place hplace]
      refine ((hjournal.widen ?_).trans (hlog.widen hbeside)).trans (hput.widen ?_)
      · rintro _ rfl
        exact hbeside _ (Path.journal_mem_besides place)
      · exact fun q hq => ⟨place, hnames, List.mem_cons.mpr (.inl hq)⟩

/-- The files that a database in use has for itself are no directories. -/
def Unblocked (disk : Disk) (file : DatabaseFile) : Prop :=
  ∀ place, file.place = some place →
    disk.get? place ≠ some .directory ∧ disk.get? (Path.log place) ≠ some .directory ∧
      disk.get? (Path.index place) ≠ some .directory

theorem frame_closed (hnames : ∀ place, file.place = some place → Names path place)
    (hunblocked : disk.Unblocked file) (content : Store.Database) :
    Frame (Owns path) nowhere disk (disk.closed file content) := by
  cases hplace : file.place with
  | none =>
      rw [closed, hplace]
      exact .refl disk
  | some place =>
      cases hthere : disk.get? place with
      | none =>
          simp only [closed, hplace, hthere, Option.isNone_none, if_true]
          exact .refl disk
      | some entry =>
          obtain ⟨hentry, hlog, hindex⟩ := hunblocked place hplace
          have hfirst := Frame.erase hlog
          have hnext := Frame.erase (hfirst.ne_directory hindex not_false)
          have hput := Frame.put (database_ne_directory content (file.layoutFor content))
            (hnext.ne_directory (hfirst.ne_directory hentry not_false) not_false)
          have hbeside : ∀ q ∈ Path.files place, Owns path q :=
            fun q hq => ⟨place, hnames place hplace, hq⟩
          rw [closed_of_place hplace (hthere ▸ rfl)]
          refine ((hfirst.widen ?_).trans (hnext.widen ?_)).trans (hput.widen ?_)
          · rintro _ rfl
            exact hbeside _ (List.mem_cons_of_mem _ (Path.log_mem_besides place))
          · rintro _ rfl
            exact hbeside _ (List.mem_cons_of_mem _ (Path.index_mem_besides place))
          · rintro _ rfl
            exact hbeside _ (List.mem_cons_self ..)

/-- Following some of the names, from the first one on, leads to a place. -/
def OnWay (place : Path) (names : List String) (q : Path) : Prop :=
  ∃ taken, taken <+: names ∧ taken.foldl Path.step place = q

/-- The way to the file that a path leads to passes a place. -/
def Passed (target : String) (q : Path) : Prop :=
  OnWay (Path.start target) (Path.steps target).dropLast q

/-- Beside a file that is not refused there are no directories in place of the log and, unless
nothing was ever written to the file, the journal. A log has a name. -/
theorem barrier?_eq_none (hplace : file.place = some place) :
    disk.barrier? file = none ↔ disk.get? (Path.log place) ≠ some .directory ∧
      (file.isNew = false → disk.get? (Path.journal place) ≠ some .directory ∧
        (disk.usesLog file place = true → disk.hasRoom file place = true)) := by
  simp only [barrier?, hplace, ← isDirectory_eq_false]
  cases file.isNew <;> cases disk.isDirectory (Path.log place) <;>
    cases disk.isDirectory (Path.journal place) <;> simp

theorem Frame.isSome (hframe : Frame touched made disk other) (hspared : ¬ touched q)
    (hthere : (disk.get? q).isSome) : (other.get? q).isSome := by
  obtain ⟨entry, hentry⟩ := Option.isSome_iff_exists.mp hthere
  rw [hframe.keeps q entry hentry (.inr hspared)]
  rfl

end Disk

end PaymentOrders
