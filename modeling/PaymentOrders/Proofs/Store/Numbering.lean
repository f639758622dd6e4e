import PaymentOrders.Proofs.Store.Noting
import PaymentOrders.Proofs.Store.Reading
/-!
# Numbers are consecutive and never reused

The numbers that the calls of a run use up are one, two and so on, whatever fails in between and
whatever is purged. So a revision that a history comes to show has a number above all that were
ever shown.
-/

namespace PaymentOrders.Store

/-! ## Runs -/

namespace Noted

def start : Noted :=
  ⟨(migrate .empty).2, []⟩

def step (noted : Noted) (call : Mutation) : Noted :=
  (Noting.perform call noted).2

/-- What some calls leave, one after the other, whether they succeed or not. -/
def of (calls : List Mutation) : Noted :=
  calls.foldl step start

theorem of_append_singleton (calls : List Mutation) (call : Mutation) :
    of (calls ++ [call]) = (of calls).step call := by
  rw [of, List.foldl_append]
  rfl

theorem database_step (noted : Noted) (call : Mutation) :
    (noted.step call).database = (call.perform noted.database).2 := by
  rw [(Noting.notes_perform call).forget noted]
  rfl

theorem database_of (calls : List Mutation) : (of calls).database = (Run.of calls).database := by
  induction calls using List.reverseRecOn with
  | nil => rfl
  | append_singleton calls call ih =>
      rw [of_append_singleton, database_step, ih, Run.of_append_singleton, Run.database_step]

theorem follows_of (calls : List Mutation) : Noting.Follows start (of calls) := by
  induction calls using List.reverseRecOn with
  | nil => exact .refl start
  | append_singleton calls call ih =>
      rw [of_append_singleton]
      exact ih.trans ((Noting.notes_perform call).follow _)

/-- The numbers of a run go up to the counter of the ledger that the run keeps. -/
theorem numbers_of {calls : List Mutation} {ledger : Ledger}
    (hkeeps : (Run.of calls).Keeps ledger) :
    (of calls).numbers = Noting.numbersAfter 0 ledger.trail.last := by
  obtain ⟨count, ⟨trail, htrail, _, hlast⟩, hnumbers⟩ := follows_of calls 0 ⟨.empty, rfl, rfl, rfl⟩
  rw [database_of, hkeeps.database_eq] at htrail
  rw [Nat.zero_add] at hlast
  rw [hnumbers, ← hlast, ← Option.some.inj htrail]
  rfl

end Noted

/-! ## What steps of a ledger use up -/

def Answer.numbersUsed : Answer → Nat
  | created _ | modified _ => 1
  | deleted summary => summary.recordsDeleted

/-- How many numbers a call uses up, by what it answers: one for an order that it creates or
changes, one for each live order that it removes, and none if it fails. -/
def UsesUp (answer : Except Failure Answer) (before after : Database) (count : Nat) : Prop :=
  match answer with
  | .ok (.created _) | .ok (.modified _) => count = 1
  | .ok (.deleted summary) => count = summary.recordsDeleted ∧
      ∃ rows rows', before.orders = some rows ∧ after.orders = some rows' ∧
        rows.length = rows'.length + count
  | .error _ => count = 0

namespace Ledger

variable {ledger after : Ledger} {call : Mutation} {answer : Answer}

theorem Step.last_eq (hstep : ledger.Step call answer after) :
    after.trail.last = ledger.trail.last + answer.numbersUsed := by
  cases hstep with
  | create => exact last_create _ _ _
  | update => exact last_modify _ _ _
  | @delete request filter clock hresolve hanswered hroom =>
      rw [last_remove, Answer.numbersUsed, DeletionSummary.ofLive, wanted_live, List.length_map]

theorem Step.usesUp (hstep : ledger.Step call answer after) :
    UsesUp (.ok answer) ledger.database after.database answer.numbersUsed := by
  cases hstep with
  | create => rfl
  | update => rfl
  | @delete request filter clock hresolve hanswered hroom =>
      refine ⟨rfl, _, _, rfl, rfl, ?_⟩
      have hsplit := List.length_eq_length_filter_add (l := ledger.orders) filter.wants
      rw [Answer.numbersUsed, DeletionSummary.ofLive, wanted_live, List.length_map,
        List.length_map, List.length_map, hsplit, Nat.add_comm]
      rfl

/-- What the second ledger holds beyond the first has numbers that were not yet used in that. -/
structure Grows (ledger after : Ledger) : Prop where
  last_le : ledger.trail.last ≤ after.trail.last
  entries : ∀ entry ∈ after.entries, entry ∈ ledger.entries ∨ ledger.trail.last < entry.number

theorem Grows.refl (ledger : Ledger) : ledger.Grows ledger :=
  ⟨Nat.le_refl _, fun _ hentry => .inl hentry⟩

theorem Grows.trans {between : Ledger} (hfirst : ledger.Grows between)
    (hnext : between.Grows after) : ledger.Grows after where
  last_le := hfirst.last_le.trans hnext.last_le
  entries := by
    intro entry hentry
    rcases hnext.entries entry hentry with hbetween | hnew
    · exact hfirst.entries entry hbetween
    · exact .inr (Nat.lt_of_le_of_lt hfirst.last_le hnew)

theorem Step.grows (hstep : ledger.Step call answer after) : ledger.Grows after where
  last_le := by
    rw [hstep.last_eq]
    exact Nat.le_add_right _ _
  entries := by
    have happend {number : Nat} {change : ChangeType} {time : Timestamp} {order : Order}
        (hnumber : ledger.trail.last < number) :
        ∀ entry ∈ ledger.entries ++ [⟨number, change, time, order⟩],
          entry ∈ ledger.entries ∨ ledger.trail.last < entry.number := by
      intro entry hentry
      rcases List.mem_append.mp hentry with hentry | hentry
      · exact .inl hentry
      · rw [List.mem_singleton.mp hentry]
        exact .inr hnumber
    cases hstep with
    | create => exact happend (Nat.lt_succ_self _)
    | update => exact happend (Nat.lt_succ_self _)
    | delete =>
        intro entry hentry
        exact .inl (List.mem_of_mem_filter hentry)

end Ledger

namespace Run

variable {calls : List Mutation} {ledger : Ledger}

theorem Keeps.grows (hkeeps : (of calls).Keeps ledger) (later : List Mutation) :
    ∃ after, (of (calls ++ later)).Keeps after ∧ ledger.Grows after := by
  induction later using List.reverseRecOn with
  | nil => exact ⟨ledger, by rwa [List.append_nil], .refl ledger⟩
  | append_singleton later call ih =>
      obtain ⟨between, hbetween, hgrows⟩ := ih
      rw [← List.append_assoc, of_append_singleton]
      rcases Ledger.step_or_refused hbetween.kept call with ⟨answer, after, hstep⟩ | hrefused
      · exact ⟨after, hbetween.step_of hstep, hgrows.trans hstep.grows⟩
      · rw [hbetween.step_refused hrefused]
        exact ⟨between, hbetween, hgrows⟩

end Run

/-! ## Numbers that histories show -/

/-- The history of some order shows a revision. -/
def Visible (db : Database) (revision : Revision) : Prop :=
  ∃ id revisions, (revisionsOf id db).1 = .ok revisions ∧ revision ∈ revisions

theorem Ledger.WellKept.visible_iff {ledger : Ledger} (hkept : ledger.WellKept)
    {revision : Revision} :
    Visible ledger.database revision ↔ ∃ entry ∈ ledger.entries, entry.toRevision = revision := by
  constructor
  · rintro ⟨id, revisions, hread, hmem⟩
    rw [hkept.revisionsOf_database id] at hread
    cases hread
    obtain ⟨entry, hentry, rfl⟩ := List.mem_map.mp hmem
    exact ⟨entry, List.mem_of_mem_filter hentry, rfl⟩
  · rintro ⟨entry, hentry, rfl⟩
    have hown : entry ∈ ledger.entries.filter fun other => other.order.id = entry.order.id :=
      List.mem_filter.mpr ⟨hentry, decide_eq_true rfl⟩
    exact ⟨entry.order.id, ledger.history entry.order.id,
      by rw [hkept.revisionsOf_database], List.mem_map_of_mem hown⟩

theorem Run.Keeps.number_le_last {calls : List Mutation} {ledger : Ledger}
    (hkeeps : (Run.of calls).Keeps ledger) {revision : Revision}
    (hvisible : Visible (Run.of calls).database revision) :
    revision.number ≤ ledger.trail.last := by
  rw [hkeeps.database_eq, hkeeps.kept.visible_iff] at hvisible
  obtain ⟨entry, hentry, rfl⟩ := hvisible
  exact Int.ofNat_le.mpr (Ledger.number_le_last hentry)

/-- Whatever a row of the trail of a run tells, some history shows. -/
theorem Run.visible_of_row {calls : List Mutation} {revision : Revision}
    (h : ∃ trail ∈ (Run.of calls).database.trail, ∃ row ∈ trail.rows,
      row.toRevision = .ok revision) : Visible (Run.of calls).database revision := by
  obtain ⟨ledger, hkeeps⟩ := Run.exists_ledger calls
  obtain ⟨trail, htrail, row, hrow, hread⟩ := h
  rw [hkeeps.database_eq] at htrail ⊢
  have hsame : ledger.trail = trail := Option.some.inj htrail
  rw [← hsame] at hrow
  obtain ⟨entry, hentry, rfl⟩ := List.mem_map.mp hrow
  rw [LedgerEntry.toRevision_toRow] at hread
  exact hkeeps.kept.visible_iff.mpr ⟨entry, hentry, Except.ok.inj hread⟩

theorem Noting.lt_of_mem_numbersAfter {last number : Nat} {noted : Int}
    (hnoted : noted ∈ numbersAfter 0 last) (hlt : last < number) : noted < number := by
  obtain ⟨n, hn, rfl⟩ := List.mem_map.mp hnoted
  have hle := List.mem_range'_1.mp hn
  exact Int.ofNat_lt.mpr (by omega)

theorem exists_fresh (calls : List Mutation) (call : Mutation) :
    ∃ fresh, (Noted.of (calls ++ [call])).numbers = (Noted.of calls).numbers ++ fresh ∧
      UsesUp (call.perform (Run.of calls).database).1 (Run.of calls).database
        (Run.of (calls ++ [call])).database fresh.length := by
  obtain ⟨ledger, hkeeps⟩ := Run.exists_ledger calls
  rcases Ledger.step_or_refused hkeeps.kept call with ⟨answer, after, hstep⟩ | hrefused
  · have hafter : (Run.of (calls ++ [call])).Keeps after := by
      rw [Run.of_append_singleton]
      exact hkeeps.step_of hstep
    refine ⟨Noting.numbersAfter ledger.trail.last answer.numbersUsed, ?_, ?_⟩
    · have happend := Noting.numbersAfter_append 0 ledger.trail.last answer.numbersUsed
      rw [Nat.zero_add] at happend
      rw [Noted.numbers_of hafter, Noted.numbers_of hkeeps, hstep.last_eq, happend]
    · rw [Noting.length_numbersAfter, hafter.database_eq, hkeeps.database_eq,
        hstep.perform hkeeps.kept]
      exact hstep.usesUp
  · have hafter : (Run.of (calls ++ [call])).Keeps ledger := by
      rw [Run.of_append_singleton, hkeeps.step_refused hrefused]
      exact hkeeps
    refine ⟨[], ?_, ?_⟩
    · rw [Noted.numbers_of hafter, Noted.numbers_of hkeeps, List.append_nil]
    · obtain ⟨failure, hperform⟩ := hrefused
      rw [hkeeps.database_eq, hperform]
      rfl

/-- The numbers that the calls of a run use up are one, two and so on without a gap: one for each
creation and each change, one for each removed order, though its last revision is purged, and none
for a call that fails. So whatever a later history shows and is not shown yet has a larger number
than everything that got one so far or was ever shown, purged or not. -/
theorem numbers_never_reused (calls : List Mutation) :
    (Noted.of calls).database = (Run.of calls).database ∧
      (Noted.of calls).numbers = Noting.numbersAfter 0 (Noted.of calls).numbers.length ∧
      (∀ call, ∃ fresh,
        (Noted.of (calls ++ [call])).numbers = (Noted.of calls).numbers ++ fresh ∧
          UsesUp (call.perform (Run.of calls).database).1 (Run.of calls).database
            (Run.of (calls ++ [call])).database fresh.length) ∧
      ∀ later revision, Visible (Run.of (calls ++ later)).database revision →
        ¬ Visible (Run.of calls).database revision →
        (∀ number ∈ (Noted.of calls).numbers, number < revision.number) ∧
          ∀ earlier, earlier <+: calls → ∀ shown, Visible (Run.of earlier).database shown →
            shown.number < revision.number := by
  obtain ⟨ledger, hkeeps⟩ := Run.exists_ledger calls
  refine ⟨Noted.database_of calls, ?_, exists_fresh calls, ?_⟩
  · rw [Noted.numbers_of hkeeps, Noting.length_numbersAfter]
  · intro later revision hlater hnow
    obtain ⟨after, hafter, hgrows⟩ := hkeeps.grows later
    rw [hafter.database_eq, hafter.kept.visible_iff] at hlater
    rw [hkeeps.database_eq, hkeeps.kept.visible_iff] at hnow
    obtain ⟨entry, hentry, rfl⟩ := hlater
    have hnew : ledger.trail.last < entry.number :=
      (hgrows.entries entry hentry).resolve_left fun hold => hnow ⟨entry, hold, rfl⟩
    constructor
    · rw [Noted.numbers_of hkeeps]
      intro number hnumber
      exact Noting.lt_of_mem_numbersAfter hnumber hnew
    -- What an earlier history showed may be purged by now, but its number was used by then.
    · rintro earlier ⟨rest, rfl⟩ shown hshown
      obtain ⟨before, hbefore⟩ := Run.exists_ledger earlier
      obtain ⟨between, hbetween, hgrew⟩ := hbefore.grows rest
      have hsame : between.trail = ledger.trail :=
        Option.some.inj (congrArg Database.trail
          (hbetween.database_eq.symm.trans hkeeps.database_eq))
      have hused : before.trail.last ≤ ledger.trail.last := hsame ▸ hgrew.last_le
      calc shown.number
          ≤ before.trail.last := hbefore.number_le_last hshown
        _ ≤ ledger.trail.last := Int.ofNat_le.mpr hused
        _ < entry.number := Int.ofNat_lt.mpr hnew

/-- The deletion uses up a number, of which nothing is left, and the order that comes back
afterwards gets the next one. -/
theorem numbers_never_reused_moved :
    let again : Mutation :=
      .create (Sample.fieldsUnder Sample.firstCase "2026/2") "clerk" Sample.secondId Sample.clock
    let first : Revision := ⟨3, Sample.secondId, .created, Sample.noon, some Sample.secondOrder⟩
    let second : Revision := { first with number := 5 }
    (Noted.of Sample.movedAway).numbers = [1, 2, 3, 4] ∧
      Visible (Run.of (Sample.movedAway.take 3)).database first ∧
      Visible (Run.of (Sample.movedAway ++ [again])).database second ∧
      ¬ Visible (Run.of Sample.movedAway).database second ∧
      (∀ number ∈ (Noted.of Sample.movedAway).numbers, number < second.number) ∧
      first.number < second.number := by
  intro again first second
  obtain ⟨ledger, hkeeps⟩ := Run.exists_ledger Sample.movedAway
  have hfirst : Visible (Run.of (Sample.movedAway.take 3)).database first :=
    Run.visible_of_row (by decide +kernel)
  have hsecond : Visible (Run.of (Sample.movedAway ++ [again])).database second :=
    Run.visible_of_row (by decide +kernel)
  have hlast : ledger.trail.last = 4 := by
    have htrail : (Run.of Sample.movedAway).database.trail.map Trail.last = some 4 := by
      decide +kernel
    rw [hkeeps.database_eq] at htrail
    exact Option.some.inj htrail
  have hnow : ¬ Visible (Run.of Sample.movedAway).database second := by
    intro hvisible
    have hle := hkeeps.number_le_last hvisible
    rw [hlast] at hle
    exact absurd hle (by decide)
  obtain ⟨_, _, _, hlarger⟩ := numbers_never_reused Sample.movedAway
  obtain ⟨hnumbers, hshown⟩ := hlarger [again] second hsecond hnow
  exact ⟨by decide +kernel, hfirst, hsecond, hnow, hnumbers,
    hshown _ (List.take_prefix 3 _) first hfirst⟩

end PaymentOrders.Store
