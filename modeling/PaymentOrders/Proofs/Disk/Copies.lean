import PaymentOrders.Proofs.Disk.Use
/-!
# Copies that are found again

A path that ends with the name of a file leads to one place as soon as the directories on its way
are there. A copy was written where such a path leads, so it is read there as long as the copy and
these directories stay.
-/

namespace PaymentOrders

theorem Text.mem_of_mem_parts {mark c : Char} {cs part : List Char} (hpart : part ∈ parts mark cs)
    (hc : c ∈ part) : c ∈ cs := by
  induction cs generalizing part with
  | nil => simp_all [parts]
  | cons d cs ih =>
      unfold parts at hpart
      split at hpart
      · rcases List.mem_cons.mp hpart with rfl | hrest
        · cases hc
        · exact List.mem_cons_of_mem _ (ih hrest hc)
      · obtain ⟨first, rest, hparts⟩ := List.exists_cons_of_ne_nil (parts_ne_nil mark cs)
        rw [hparts] at hpart ih
        rcases List.mem_cons.mp hpart with rfl | hrest
        · rcases List.mem_cons.mp hc with rfl | hc
          · exact List.mem_cons_self ..
          · exact List.mem_cons_of_mem _ (ih (List.mem_cons_self ..) hc)
        · exact List.mem_cons_of_mem _ (ih (List.mem_cons_of_mem _ hrest) hc)

namespace Path

end Path

namespace Disk

variable {disk made written other : Disk} {target : String} {place : Path} {names : List String}
  {file : DatabaseFile} {content : Store.Database} {layout : Layout}

/-- A path without options that ends with the name of a file and can be looked up. -/
structure Plain (target : String) : Prop where
  isFile : IsFile target ⟨target, .create⟩
  last : ∃ name, (Path.names target).getLast? = some name ∧ name ≠ "" ∧ name ≠ "." ∧ name ≠ ".."
  size : Path.size (Path.names target) ≤ maxNamesSize

/-- On every disk on which its way passes through directories, a path leads to one place. -/
def Leads (target : String) (place : Path) : Prop :=
  ∀ disk : Disk, disk.Passes (Path.start target) (Path.names target) →
    disk.follow (Path.start target) (Path.names target) = .ok place ∧
      disk.locate? target = some place

theorem Plain.noNul (hplain : Plain target) :
    ((Path.names target).any fun name => name.toList.contains (Char.ofNat 0)) = false := by
  rw [List.any_eq_false]
  intro name hname hnul
  obtain ⟨part, hpart, rfl⟩ := List.mem_map.mp hname
  rw [String.toList_ofList, List.contains_iff_mem] at hnul
  exact hplain.isFile.noNul (List.contains_iff_mem.mpr (Text.mem_of_mem_parts hpart hnul))

/-- A copy is where a path leads, and nothing beside it keeps anyone from reading it. -/
structure Holds (disk : Disk) (target : String) (content : Store.Database) (layout : Layout) :
    Prop where
  leads : Leads target (Path.ofText target)
  passes : disk.Passes (Path.start target) (Path.names target)
  there : disk.get? (Path.ofText target) = some (.database content layout)
  log : disk.get? (Path.log (Path.ofText target)) ≠ some .directory
  journal : disk.get? (Path.journal (Path.ofText target)) ≠ some .directory
  room : Path.nameSize (Path.ofText target) ≤ DatabaseFile.maxLoggedSize

section Holds

variable {touched created : Path → Prop}

theorem Holds.frame (hheld : disk.Holds target content layout)
    (hframe : Frame touched created disk other) (hspared : ¬ touched (Path.ofText target))
    (hlog : ¬ created (Path.log (Path.ofText target)))
    (hjournal : ¬ created (Path.journal (Path.ofText target))) :
    other.Holds target content layout where
  leads := hheld.leads
  passes := hheld.passes.mono hframe.keepsDirectories
  there := hframe.keeps _ _ hheld.there (.inr hspared)
  log := hframe.ne_directory hheld.log hlog
  journal := hframe.ne_directory hheld.journal hjournal
  room := hheld.room

/-- A copy that is held is read. -/
theorem Holds.readCopy (hheld : disk.Holds target content layout) (hplain : Plain target) :
    (disk.readCopy target).1 = .ok (content, layout) := by
  obtain ⟨hfollow, hlocate⟩ := hheld.leads disk hheld.passes
  have hpresent : disk.isPresent target = true := by
    simp only [isPresent, hfollow, hheld.there, Option.isSome_some]
  have hopen : disk.openFile target =
      .ok ⟨some (Path.ofText target), some content, layout, false, false⟩ := by
    refine openFile_eq_ok.mpr ⟨hplain.isFile.noNul, _, hplain.isFile.read, ?_⟩
    rw [if_neg (Bool.eq_false_iff.mp hplain.isFile.onDisk)]
    exact ⟨_, hlocate, fileAt?_of_database hheld.there⟩
  have hbarrier : disk.barrier?
      ⟨some (Path.ofText target), some content, layout, false, false⟩ = none := by
    refine (barrier?_eq_none rfl).mpr ⟨hheld.log, fun _ => ⟨hheld.journal, fun huses => ?_⟩⟩
    refine decide_eq_true ?_
    rw [if_pos huses]
    exact hheld.room
  simp only [Disk.readCopy, hpresent, hopen, lookInto, hbarrier, Bool.false_eq_true, if_false,
    if_true]

end Holds

end Disk

end PaymentOrders
