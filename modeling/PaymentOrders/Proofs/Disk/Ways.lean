import PaymentOrders.Proofs.Disk
/-!
# Ways through directories

Names are followed from directory to directory. Where all the places that are passed are
directories, it depends on nothing else on the disk where a path leads, so it leads there on every
other disk with these directories.
-/

namespace PaymentOrders

namespace Path

variable {place : Path} {name : String}

/-- The place is one that following its own names leads to. -/
def Normal (place : Path) : Prop :=
  place.foldl step [] = place

/-- A name stays, goes back or goes on. -/
theorem step_cases (place : Path) (name : String) :
    step place name = place ∨ step place name = place.dropLast ∨
      step place name = place ++ [name] := by
  unfold step
  split
  · exact .inl rfl
  · split
    next hback =>
      subst hback
      split
      next hnone => exact .inr (.inr (by rw [List.getLast?_eq_none_iff.mp hnone]; rfl))
      next =>
        split
        · exact .inl rfl
        · split
          · exact .inr (.inr rfl)
          · exact .inr (.inl rfl)
    · exact .inr (.inr rfl)

theorem length_foldl_step_le (names : List String) (start : Path) :
    (names.foldl step start).length ≤ start.length + names.length := by
  induction names generalizing start with
  | nil => exact Nat.le_refl _
  | cons name names ih =>
      have hstep := length_step_le start name
      have hrest := ih (step start name)
      rw [List.foldl_cons, List.length_cons]
      omega

theorem Normal.dropLast (h : Normal place) : Normal place.dropLast := by
  rcases List.eq_nil_or_concat' place with rfl | ⟨init, last, rfl⟩
  · exact h
  · rw [Normal, List.foldl_append, List.foldl_cons, List.foldl_nil] at h
    rw [List.dropLast_concat, Normal]
    have hshort := length_foldl_step_le init []
    have hlength := congrArg List.length h
    rw [List.length_append, List.length_singleton] at hlength
    rcases step_cases (init.foldl step []) last with hsame | hback | hon
    · rw [hsame] at hlength
      rw [List.length_nil] at hshort
      omega
    · rw [hback, List.length_dropLast] at hlength
      rw [List.length_nil] at hshort
      omega
    · exact (List.append_inj_left' (hon.symm.trans h) rfl)

theorem Normal.step (h : Normal place) (name : String) : Normal (step place name) := by
  rcases step_cases place name with hsame | hback | hon
  · rwa [hsame]
  · rw [hback]
    exact h.dropLast
  · rw [hon, Normal, List.foldl_append, h]
    exact hon

end Path

namespace Disk

variable {disk other : Disk} {place found : Path} {names more : List String}

/-- The directories of a disk are there on another one. -/
def KeepsDirectories (disk other : Disk) : Prop :=
  ∀ place, disk.get? place = some .directory → other.get? place = some .directory

/-- Every place that is passed when names are followed is a directory; the last one is not
passed. -/
def Passes (disk : Disk) : Path → List String → Prop
  | _, [] => True
  | place, name :: names =>
      disk.get? place = some .directory ∧ disk.Passes (Path.step place name) names

theorem Passes.mono (hkeeps : KeepsDirectories disk other) (h : disk.Passes place names) :
    other.Passes place names := by
  induction names generalizing place with
  | nil => trivial
  | cons name names ih => exact ⟨hkeeps place h.1, ih h.2⟩

theorem foldlM_advance_congr (h : disk.Passes place names) (hother : other.Passes place names) :
    names.foldlM other.advance place = names.foldlM disk.advance place := by
  induction names generalizing place with
  | nil => rfl
  | cons name names ih =>
      rw [List.foldlM_cons, List.foldlM_cons, advance, advance, h.1, hother.1]
      by_cases hsize : name.utf8ByteSize ≤ maxNameSize
      · simp only [if_pos hsize, Steps.bind_ok]
        exact ih h.2 hother.2
      · simp only [if_neg hsize, Steps.bind_error]

theorem isOpenWay_congr (h : disk.Passes [] place) (hother : other.Passes [] place) :
    other.isOpenWay place = disk.isOpenWay place := by
  unfold isOpenWay follow
  rw [foldlM_advance_congr h hother]

/-- Every place to which names lead lies in directories. -/
def Reaches (disk : Disk) (place : Path) (names : List String) : Prop :=
  ∀ taken, taken <+: names → disk.Passes [] (taken.foldl Path.step place)

theorem Reaches.mono (hkeeps : KeepsDirectories disk other) (h : disk.Reaches place names) :
    other.Reaches place names :=
  fun taken htaken => (h taken htaken).mono hkeeps

theorem Reaches.tail {name : String} (h : disk.Reaches place (name :: names)) :
    disk.Reaches (Path.step place name) names :=
  fun taken htaken => h (name :: taken) (List.cons_prefix_cons.mpr ⟨rfl, htaken⟩)

theorem Reaches.first {name : String} (h : disk.Reaches place (name :: names)) :
    disk.Passes [] (Path.step place name) :=
  h.tail [] List.nil_prefix

theorem foldlM_goOn?_congr (h : disk.Reaches place names) (hother : other.Reaches place names) :
    names.foldlM other.goOn? place = names.foldlM disk.goOn? place := by
  induction names generalizing place with
  | nil => rfl
  | cons name names ih =>
      rw [List.foldlM_cons, List.foldlM_cons, goOn?, goOn?,
        isOpenWay_congr h.first hother.first]
      cases disk.isOpenWay (Path.step place name) with
      | true => exact ih h.tail hother.tail
      | false => rfl

theorem locate?_congr {path : String}
    (h : disk.Reaches (Path.start path) (Path.names path))
    (hother : other.Reaches (Path.start path) (Path.names path)) :
    other.locate? path = disk.locate? path := by
  rw [locate?, locate?, foldlM_goOn?_congr h hother]

end Disk

end PaymentOrders
