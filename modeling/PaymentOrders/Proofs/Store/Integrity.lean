import PaymentOrders.Proofs.Store.Schema
import PaymentOrders.Proofs.Store.Writes
import PaymentOrders.Store.Integrity
/-!
# Calls and integrity

What the report of a database lists, as long as live orders have canonical ids. A call that
succeeds adds nothing to either list, whatever the trail holds: a created order comes with its
creation, a removed one takes its trail along, and no live order loses a revision.
-/

namespace PaymentOrders.Store

def CanonicalIds (rows : List OrderRow) : Prop :=
  ∀ row ∈ rows, ∃ id : OrderId, row.id = some id.toText

def LiveUnder (rows : List OrderRow) (recordId : String) : Prop :=
  ∃ row ∈ rows, row.id = some recordId

/-- The trail does not tell that a live order was created. -/
def Uncreated (rows : List OrderRow) (trail : Trail) (recordId : String) : Prop :=
  LiveUnder rows recordId ∧ ∀ row ∈ trail.rows, row.tellsCreation recordId = false

/-- A record of the trail is not live. -/
def Orphaned (rows : List OrderRow) (trail : Trail) (recordId : String) : Prop :=
  (∃ row ∈ trail.rows, row.recordId = recordId) ∧ ¬ LiveUnder rows recordId

/-! ## The report -/

section Report

variable {db : Database} {rows : List OrderRow} {trail : Trail}

theorem mem_sortTexts {texts : List String} {text : String} :
    text ∈ sortTexts texts ↔ text ∈ texts :=
  (List.mergeSort_perm texts _).mem_iff

theorem mem_orphanedIds {recordId : String} :
    recordId ∈ orphanedIds rows trail ↔ Orphaned rows trail recordId := by
  simp only [orphanedIds, mem_sortTexts, List.mem_filter, List.mem_eraseDups, List.mem_map,
    Bool.not_eq_true', List.any_eq_false, beq_iff_eq, Orphaned, LiveUnder, not_exists, not_and]

theorem exists_uncreatedIds (hids : CanonicalIds rows) (trail : Trail) :
    ∃ uncreated, uncreatedIds rows trail = .ok uncreated ∧
      ∀ recordId, recordId ∈ uncreated ↔ Uncreated rows trail recordId := by
  have hnamed : rows.any (fun row => row.id.isNone) = false := by
    rw [List.any_eq_false]
    intro row hrow
    obtain ⟨id, hid⟩ := hids row hrow
    simp [hid]
  refine ⟨_, by rw [uncreatedIds, hnamed]; rfl, ?_⟩
  intro recordId
  simp only [mem_sortTexts, List.mem_filter, List.mem_filterMap, Bool.not_eq_true',
    List.any_eq_false, Bool.not_eq_true, Uncreated, LiveUnder]

theorem integrityCheck_apply (hdb : db.Holds rows trail) {uncreated : List String}
    (huncreated : uncreatedIds rows trail = .ok uncreated) :
    integrityCheck db =
      (.ok ⟨quickCheck db == quickCheckPassed, quickCheck db, uncreated, orphanedIds rows trail,
        .ofVersion db.version⟩, db.withVersions) := by
  have hmessage : (Session.read fun db => .ok (quickCheck db)) db = (.ok (quickCheck db), db) :=
    rfl
  have hcreated : (Session.within .checkingCreated <|
      Session.read fun db => do uncreatedIds (← db.orderRows) (← db.theTrail)) db =
        (.ok uncreated, db) := by
    apply Session.mapFailure_of_ok
    rw [Session.read_apply, Database.orderRows, Database.theTrail, hdb.orders_eq, hdb.trail_eq]
    simp only [Steps.bind_ok, huncreated]
  have horphaned : (Session.within .checkingOrphans <|
      Session.read fun db => do return orphanedIds (← db.orderRows) (← db.theTrail)) db =
        (.ok (orphanedIds rows trail), db) := by
    apply Session.mapFailure_of_ok
    rw [Session.read_apply, Database.orderRows, Database.theTrail, hdb.orders_eq, hdb.trail_eq]
    rfl
  rw [integrityCheck, Steps.bind_of_ok hmessage, Steps.bind_of_ok hcreated,
    Steps.bind_of_ok horphaned]
  rfl

theorem exists_report (hdb : db.Holds rows trail) (hids : CanonicalIds rows) :
    ∃ report, (integrityCheck db).1 = .ok report ∧
      (∀ recordId, recordId ∈ report.ordersWithoutCreatedRevision ↔
        Uncreated rows trail recordId) ∧
      ∀ recordId, recordId ∈ report.orphanedRevisionRecordIds ↔
        Orphaned rows trail recordId := by
  obtain ⟨uncreated, huncreated, hmem⟩ := exists_uncreatedIds hids trail
  refine ⟨_, by rw [integrityCheck_apply hdb huncreated], hmem, ?_⟩
  intro recordId
  exact mem_orphanedIds

end Report

/-! ## What calls do to it -/

/-- Nothing is listed of some tables that was not listed of the tables before. -/
structure NoWorse (rows : List OrderRow) (trail : Trail) (rows' : List OrderRow)
    (trail' : Trail) : Prop where
  uncreated : ∀ recordId, Uncreated rows' trail' recordId → Uncreated rows trail recordId
  orphaned : ∀ recordId, Orphaned rows' trail' recordId → Orphaned rows trail recordId

section NoWorse

variable {rows : List OrderRow} {trail : Trail}

theorem liveUnder_append {row : OrderRow} {recordId : String} :
    LiveUnder (rows ++ [row]) recordId ↔ LiveUnder rows recordId ∨ row.id = some recordId := by
  simp only [LiveUnder, List.mem_append, List.mem_singleton, or_and_right, exists_or,
    exists_eq_left]

theorem id_rowsWith {id : OrderId} {row other : OrderRow} (hid : row.id = some id.toText) :
    (if other.id == some id.toText then row else other).id = other.id := by
  split
  next hsame => rw [hid, beq_iff_eq.mp hsame]
  next => rfl

theorem liveUnder_rowsWith {id : OrderId} {row : OrderRow} (hid : row.id = some id.toText)
    {recordId : String} :
    LiveUnder (rowsWith id row rows) recordId ↔ LiveUnder rows recordId := by
  simp only [LiveUnder, rowsWith, List.mem_map, exists_exists_and_eq_and, id_rowsWith hid]

/-- One more revision of a record that is live by then does no harm, and a new order comes with
the revision that tells its creation. -/
theorem noWorse_grown {rows' : List OrderRow} {revision : RevisionRow}
    (hlive : ∀ recordId, LiveUnder rows' recordId ↔
      LiveUnder rows recordId ∨ revision.tellsCreation recordId = true)
    (howner : LiveUnder rows' revision.recordId) :
    NoWorse rows trail rows' (trail.grown revision) where
  uncreated := by
    rintro recordId ⟨hafter, hnone⟩
    have hrest : ∀ row ∈ trail.rows, row.tellsCreation recordId = false :=
      fun row hrow => hnone row (List.mem_append_left _ hrow)
    have hlast := hnone revision (List.mem_append_right _ (List.mem_singleton_self _))
    rcases (hlive recordId).mp hafter with hbefore | htells
    · exact ⟨hbefore, hrest⟩
    · rw [hlast] at htells
      cases htells
  orphaned := by
    rintro recordId ⟨⟨row, hrow, hid⟩, hgone⟩
    have hbefore : ¬ LiveUnder rows recordId := fun h => hgone ((hlive recordId).mpr (.inl h))
    rcases List.mem_append.mp hrow with hrow | hrow
    · exact ⟨⟨row, hrow, hid⟩, hbefore⟩
    · rw [List.mem_singleton.mp hrow] at hid
      exact absurd (hid ▸ howner) hgone

end NoWorse

section Delete

variable {rows : List OrderRow} {trail : Trail} {filter : OrderFilter} {removed : List Order}
  {clock : Clock}

theorem LiveUnder.of_spared {recordId : String} (h : LiveUnder (sparedRows filter rows) recordId) :
    LiveUnder rows recordId := by
  obtain ⟨row, hrow, hid⟩ := h
  exact ⟨row, List.mem_of_mem_filter hrow, hid⟩

theorem isGone_iff (hids : CanonicalIds rows) {recordId : String} :
    isGone rows recordId = true ↔ ¬ LiveUnder rows recordId := by
  simp only [isGone, List.all_eq_true, Bool.and_eq_true, bne_iff_ne, ne_eq, LiveUnder, not_exists,
    not_and]
  constructor
  · intro hgone row hrow
    exact (hgone row hrow).2
  · intro hgone row hrow
    obtain ⟨id, hid⟩ := hids row hrow
    exact ⟨by rw [hid]; rfl, hgone row hrow⟩

theorem CanonicalIds.spared (hids : CanonicalIds rows) (filter : OrderFilter) :
    CanonicalIds (sparedRows filter rows) :=
  fun row hrow => hids row (List.mem_of_mem_filter hrow)

theorem liveUnder_of_tombstone (hids : CanonicalIds rows) (hread : ReadAs filter rows removed)
    {last i : Nat} {revision : RevisionRow}
    (hrevision : revision ∈ tombstones clock last i removed) :
    LiveUnder rows revision.recordId := by
  obtain ⟨order, horder, number, time, rfl⟩ := mem_tombstones hrevision
  obtain ⟨row, hrow, _, htoOrder⟩ := hread.exists_row horder
  obtain ⟨id, hid⟩ := hids row hrow
  have hsame := OrderRow.id_of_toOrder hid htoOrder
  exact ⟨row, hrow, by rw [hid, ← hsame]; rfl⟩

theorem purges_of_removed (hids : CanonicalIds rows) (hread : ReadAs filter rows removed)
    {revision : RevisionRow} (hbefore : LiveUnder rows revision.recordId)
    (hgone : ¬ LiveUnder (sparedRows filter rows) revision.recordId) :
    purges filter (sparedRows filter rows) (trail.buried clock 0 removed) revision = true := by
  obtain ⟨row, hrow, hid⟩ := hbefore
  have hselected : row.isSelected filter = true := by
    by_contra hspared
    exact hgone ⟨row, List.mem_filter.mpr ⟨hrow, by simpa using hspared⟩, hid⟩
  cases filter with
  | ids keys =>
      obtain ⟨key, hkey, hhas⟩ := List.any_eq_true.mp hselected
      have hsame : revision.recordId = key.toText := by
        rw [OrderRow.hasId, hid, beq_iff_eq] at hhas
        exact Option.some.inj hhas
      exact List.any_eq_true.mpr ⟨key, hkey, beq_iff_eq.mpr hsame⟩
  | caseIds keys =>
      obtain ⟨key, hkey, hcase⟩ := List.any_eq_true.mp hselected
      obtain ⟨order, horder, htoOrder⟩ := hread.exists_order hrow hselected
      obtain ⟨id, hcanonical⟩ := hids row hrow
      have howner : order.id.toText = revision.recordId := by
        rw [OrderRow.id_of_toOrder hcanonical htoOrder]
        exact Option.some.inj (hcanonical.symm.trans hid)
      have hshown : (order.caseId.number : Int) = key.number := by
        rw [← (OrderRow.of_toOrder htoOrder).1]
        exact beq_iff_eq.mp hcase
      -- Whatever the trail held of the order, its last revision shows it under the key.
      obtain ⟨number, time, htombstone⟩ := tombstone_of_mem clock trail.last 0 horder
      have hcarrier : revision.recordId ∈ (trail.buried clock 0 removed).carriers keys := by
        rw [mem_carriers, Trail.rows_buried]
        exact ⟨_, List.mem_append_right _ htombstone, howner, key, hkey, congrArg some hshown⟩
      have hnone := (isGone_iff (hids.spared (.caseIds keys))).mpr hgone
      simp only [purges, List.contains_iff_mem.mpr hcarrier, hnone, Bool.and_self]

/-- A live order that stays loses nothing, wherever its trail shows it. -/
theorem not_purges_of_spared (hids : CanonicalIds rows) {buried : Trail}
    {revision : RevisionRow} (hlive : LiveUnder (sparedRows filter rows) revision.recordId) :
    purges filter (sparedRows filter rows) buried revision = false := by
  cases filter with
  | ids keys =>
      obtain ⟨row, hrow, hid⟩ := hlive
      have hspared : row.isSelected (.ids keys) = false := by
        simpa using (List.mem_filter.mp hrow).2
      have hnone := List.any_eq_false.mp hspared
      simp only [OrderRow.hasId, hid, beq_iff_eq, Option.some.injEq] at hnone
      simp only [purges, RevisionRow.belongsToAny, RevisionRow.belongsTo, List.any_eq_false,
        beq_iff_eq]
      exact hnone
  | caseIds keys =>
      have hnotGone : isGone (sparedRows (.caseIds keys) rows) revision.recordId = false := by
        rw [Bool.eq_false_iff, ne_eq, isGone_iff (hids.spared _), not_not]
        exact hlive
      rw [purges, hnotGone, Bool.and_false]

theorem noWorse_purged (hids : CanonicalIds rows) (hread : ReadAs filter rows removed) :
    NoWorse rows trail (sparedRows filter rows)
      ((trail.buried clock 0 removed).purge
        (purges filter (sparedRows filter rows) (trail.buried clock 0 removed))) where
  uncreated := by
    rintro recordId ⟨hlive, hnone⟩
    refine ⟨hlive.of_spared, ?_⟩
    intro revision hrevision
    by_contra htells
    have hcreation : revision.tellsCreation recordId = true := by simpa using htells
    have hown : revision.recordId = recordId :=
      beq_iff_eq.mp (Bool.and_eq_true_iff.mp hcreation).1
    have hburied : revision ∈ (trail.buried clock 0 removed).rows := by
      rw [Trail.rows_buried]
      exact List.mem_append_left _ hrevision
    have hkept : purges filter (sparedRows filter rows) (trail.buried clock 0 removed) revision =
        false := not_purges_of_spared hids (hown.symm ▸ hlive)
    have hleft := hnone revision (List.mem_filter.mpr ⟨hburied, by rw [hkept]; rfl⟩)
    rw [hcreation] at hleft
    cases hleft
  orphaned := by
    rintro recordId ⟨⟨revision, hrevision, rfl⟩, hgone⟩
    obtain ⟨hburied, hkept⟩ := List.mem_filter.mp hrevision
    -- A record that was live and is gone would have been purged, tombstone and all.
    have hbefore : ¬ LiveUnder rows revision.recordId := by
      intro hlive
      rw [purges_of_removed hids hread hlive hgone] at hkept
      cases hkept
    rw [Trail.rows_buried] at hburied
    rcases List.mem_append.mp hburied with hold | htombstone
    · exact ⟨⟨revision, hold, rfl⟩, hbefore⟩
    · exact absurd (liveUnder_of_tombstone hids hread htombstone) hbefore

end Delete

namespace Writes

variable {rows rows' : List OrderRow} {trail trail' : Trail} {call : Mutation} {answer : Answer}

theorem canonicalIds (h : Writes rows trail call answer rows' trail')
    (hids : CanonicalIds rows) : CanonicalIds rows' := by
  cases h with
  | @create fields createdBy fresh clock order hvalid horder =>
      intro row hrow
      rcases List.mem_append.mp hrow with hrow | hrow
      · exact hids row hrow
      · rw [List.mem_singleton.mp hrow]
        exact ⟨order.id, rfl⟩
  | @update id fields clock row order hvalid hfound hread =>
      intro other hother
      obtain ⟨old, hold, rfl⟩ := List.mem_map.mp hother
      obtain ⟨oldId, hid⟩ := hids old hold
      have hrow : row.id = some id.toText := id_of_find hfound
      exact ⟨oldId, (id_rowsWith (show (row.withFields fields).id = _ from hrow)).trans hid⟩
  | delete hresolve hread hmissing hburied hcount => exact hids.spared _

theorem noWorse (h : Writes rows trail call answer rows' trail') (hids : CanonicalIds rows) :
    NoWorse rows trail rows' trail' := by
  cases h with
  | @create fields createdBy fresh clock order hvalid horder =>
      apply noWorse_grown
      · intro recordId
        rw [liveUnder_append]
        apply or_congr Iff.rfl
        simp [OrderRow.ofOrder, RevisionRow.tellsCreation, RevisionRow.ofSnapshot]
      · exact liveUnder_append.mpr (.inr rfl)
  | @update id fields clock row order hvalid hfound hread =>
      have hid : row.id = some id.toText := id_of_find hfound
      have hrow : (row.withFields fields).id = some id.toText := hid
      have howner : order.id = id := OrderRow.id_of_toOrder hid hread
      apply noWorse_grown
      · intro recordId
        rw [liveUnder_rowsWith hrow]
        simp [RevisionRow.tellsCreation, RevisionRow.ofSnapshot, ChangeType.name]
      · rw [liveUnder_rowsWith hrow]
        exact ⟨row, List.mem_of_find?_eq_some hfound, by rw [hid, ← howner]; rfl⟩
  | delete hresolve hread hmissing hburied hcount =>
      subst hburied
      exact noWorse_purged hids hread

end Writes

/-! ## Calls and runs of calls -/

section Calls

variable {db : Database} {rows : List OrderRow} {trail : Trail}

theorem NoWorse.refl (rows : List OrderRow) (trail : Trail) : NoWorse rows trail rows trail :=
  ⟨fun _ h => h, fun _ h => h⟩

theorem NoWorse.trans {rows' rows'' : List OrderRow} {trail' trail'' : Trail}
    (hfirst : NoWorse rows trail rows' trail') (hnext : NoWorse rows' trail' rows'' trail'') :
    NoWorse rows trail rows'' trail'' where
  uncreated := fun recordId h => hfirst.uncreated recordId (hnext.uncreated recordId h)
  orphaned := fun recordId h => hfirst.orphaned recordId (hnext.orphaned recordId h)

theorem noWorse_perform (hdb : db.Holds rows trail) (hids : CanonicalIds rows)
    (call : Mutation) :
    ∃ rows' trail', (call.perform db).2.Holds rows' trail' ∧ CanonicalIds rows' ∧
      NoWorse rows trail rows' trail' := by
  rcases hperform : call.perform db with ⟨answer, after⟩
  cases answer with
  | error failure =>
      -- A failed call took back whatever it had done.
      have hsame := call.atomic_perform db failure (by rw [hperform])
      rw [hperform] at hsame
      subst hsame
      exact ⟨rows, trail, hdb, hids, .refl rows trail⟩
  | ok answer =>
      obtain ⟨rows', trail', rfl, hwrites⟩ := writes_of_perform hdb hperform
      exact ⟨rows', trail', ⟨rfl, rfl⟩, hwrites.canonicalIds hids, hwrites.noWorse hids⟩

theorem noWorse_run (hdb : db.Holds rows trail) (hids : CanonicalIds rows)
    (calls : List Mutation) :
    ∃ rows' trail', (calls.foldl (fun db call => (call.perform db).2) db).Holds rows' trail' ∧
      CanonicalIds rows' ∧ NoWorse rows trail rows' trail' := by
  induction calls generalizing db rows trail with
  | nil => exact ⟨rows, trail, hdb, hids, .refl rows trail⟩
  | cons call calls ih =>
      obtain ⟨rows', trail', hdb', hids', hfirst⟩ := noWorse_perform hdb hids call
      obtain ⟨rows'', trail'', hdb'', hids'', hrest⟩ := ih hdb' hids'
      exact ⟨rows'', trail'', hdb'', hids'', hfirst.trans hrest⟩

/-- After a call that succeeds the report lists no order and no record that it did not list
before, whatever the trail holds. -/
theorem integrity_never_worse (hdb : db.Holds rows trail) (hids : CanonicalIds rows)
    {call : Mutation} {answer : Answer} {after : Database}
    (hdone : call.perform db = (.ok answer, after)) :
    ∃ before later, (integrityCheck db).1 = .ok before ∧ (integrityCheck after).1 = .ok later ∧
      later.ordersWithoutCreatedRevision ⊆ before.ordersWithoutCreatedRevision ∧
      later.orphanedRevisionRecordIds ⊆ before.orphanedRevisionRecordIds := by
  obtain ⟨rows', trail', rfl, hwrites⟩ := writes_of_perform hdb hdone
  obtain ⟨before, hbefore, huncreated, horphaned⟩ := exists_report hdb hids
  have hdb' : ((db.withOrders rows').withTrail trail').Holds rows' trail' := ⟨rfl, rfl⟩
  obtain ⟨later, hlater, huncreated', horphaned'⟩ :=
    exists_report hdb' (hwrites.canonicalIds hids)
  have hnoWorse := hwrites.noWorse hids
  refine ⟨before, later, hbefore, hlater, ?_, ?_⟩
  · intro recordId hmem
    exact (huncreated recordId).mpr (hnoWorse.uncreated recordId ((huncreated' recordId).mp hmem))
  · intro recordId hmem
    exact (horphaned recordId).mpr (hnoWorse.orphaned recordId ((horphaned' recordId).mp hmem))

end Calls

/-- The lost record goes with the orders under the case id that it shows. -/
theorem integrity_never_worse_moved :
    let after := ((Mutation.delete ⟨[], [Sample.firstCase.toText]⟩ Sample.clock).perform
      Sample.movedDatabase).2
    ∃ before later, (integrityCheck Sample.movedDatabase).1 = .ok before ∧
      (integrityCheck after).1 = .ok later ∧ before.orphanedRevisionRecordIds = ["lost"] ∧
      later.ordersWithoutCreatedRevision ⊆ before.ordersWithoutCreatedRevision ∧
      later.orphanedRevisionRecordIds ⊆ before.orphanedRevisionRecordIds := by
  have hids : CanonicalIds (Sample.movedLive.map LiveRow.row) := by
    intro row hrow
    obtain ⟨one, _, rfl⟩ := List.mem_map.mp hrow
    exact ⟨one.order.id, one.id_eq⟩
  have hanswer : ((Mutation.delete ⟨[], [Sample.firstCase.toText]⟩ Sample.clock).perform
      Sample.movedDatabase).1 = .ok (.deleted ⟨.caseId, 1, 1, 4⟩) := by
    decide +kernel
  have hlost : (integrityCheck Sample.movedDatabase).1.map
      IntegrityReport.orphanedRevisionRecordIds = .ok ["lost"] := by
    decide +kernel
  rcases hdone : (Mutation.delete ⟨[], [Sample.firstCase.toText]⟩ Sample.clock).perform
    Sample.movedDatabase with ⟨answer, after⟩
  rw [hdone] at hanswer
  have hdb : Sample.movedDatabase.Holds (Sample.movedLive.map LiveRow.row) Sample.movedTrail :=
    ⟨rfl, rfl⟩
  obtain ⟨before, later, hbefore, hlater, huncreated, horphaned⟩ :=
    integrity_never_worse hdb hids (hdone.trans (congrArg (·, after) hanswer))
  rw [hbefore] at hlost
  exact ⟨before, later, hbefore, hlater, Except.ok.inj hlost, huncreated, horphaned⟩

end PaymentOrders.Store
