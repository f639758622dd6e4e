import PaymentOrders.Proofs.Store.Mutation
import PaymentOrders.Proofs.Store.Removal
/-!
# What deleting does

A deletion takes the last revisions of the orders that it removed away again, with the rest of
their trail. So of all that it wrote only the counter tells, and what it leaves can be told from
the tables before it.
-/

namespace PaymentOrders.Store

/-! ## Keys without an order -/

theorem missingKeys_eq_nil {filter : OrderFilter} {orders : List Order} :
    missingKeys filter orders = [] ↔ filter.Answered orders := by
  cases filter with
  | ids keys =>
      simp [missingKeys, OrderFilter.Answered, List.map_eq_nil_iff, List.filter_eq_nil_iff]
  | caseIds keys =>
      simp [missingKeys, OrderFilter.Answered, List.map_eq_nil_iff, List.filter_eq_nil_iff]

/-- Whether the matched orders answer all keys is decided by the live ones. -/
theorem answered_of_matched {filter : OrderFilter} {live : List LiveRow} {matched : List Order}
    (hperm : matched.Perm ((LiveRow.wanted filter live).map LiveRow.order)) :
    filter.Answered matched ↔ filter.Answered (live.map LiveRow.order) := by
  have hwanted : (LiveRow.wanted filter live).map LiveRow.order =
      (live.map LiveRow.order).filter filter.wants := by
    rw [List.filter_map]
    rfl
  rw [OrderFilter.Answered.of_mem_iff fun order => hperm.mem_iff, hwanted,
    OrderFilter.answered_filter_wants]

/-! ## Purging the trail -/

/-- Whether a row of the trail belongs to a record that no live order has any more, once the
orders with some case ids are removed, and that was ever under one of them, if only when it was
removed. -/
def LeftCase (caseIds : List CaseId) (live : List LiveRow) (trail : Trail)
    (row : RevisionRow) : Prop :=
  (∀ one ∈ live, one.order.id.toText = row.recordId → one.order.caseId ∈ caseIds) ∧
    ((∃ other ∈ trail.rows, other.recordId = row.recordId ∧
        ∃ caseId ∈ caseIds, other.caseId = some (caseId.number : Int)) ∨
      ∃ one ∈ live, one.order.id.toText = row.recordId ∧ one.order.caseId ∈ caseIds)

/-- Whether a deletion takes a row of the trail away. -/
def Taken (filter : OrderFilter) (live : List LiveRow) (trail : Trail) (row : RevisionRow) :
    Prop :=
  match filter with
  | .ids ids => ∃ id ∈ ids, row.recordId = id.toText
  | .caseIds caseIds => LeftCase caseIds live trail row

instance (caseIds : List CaseId) (live : List LiveRow) (trail : Trail) :
    DecidablePred (LeftCase caseIds live trail) :=
  fun _ => inferInstanceAs (Decidable (_ ∧ _))

instance (filter : OrderFilter) (live : List LiveRow) (trail : Trail) :
    DecidablePred (Taken filter live trail) := fun row =>
  match filter with
  | .ids ids => inferInstanceAs (Decidable (∃ id ∈ ids, row.recordId = id.toText))
  | .caseIds caseIds => inferInstanceAs (Decidable (LeftCase caseIds live trail row))

/-- What the purge takes away, from tables as they are by then. -/
def purges (filter : OrderFilter) (rows : List OrderRow) (trail : Trail) (row : RevisionRow) :
    Bool :=
  match filter with
  | .ids ids => row.belongsToAny ids
  | .caseIds caseIds => (trail.carriers caseIds).contains row.recordId && isGone rows row.recordId

theorem purgeSelected_apply {db : Database} {rows : List OrderRow} {trail : Trail}
    (hrows : db.orders = some rows) (htrail : db.trail = some trail) (filter : OrderFilter) :
    purgeSelected filter db = (.ok (trail.rows.countP (purges filter rows trail)),
      db.withTrail (trail.purge (purges filter rows trail))) := by
  cases filter with
  | ids ids =>
      apply Session.mapFailure_of_ok
      apply Session.write_of_ok
      rw [Database.theTrail, htrail]
      rfl
  | caseIds caseIds =>
      have hlive : db.orders.getD [] = rows := by rw [hrows, Option.getD_some]
      apply Session.mapFailure_of_ok
      apply Session.write_of_ok
      rw [Database.theTrail, htrail]
      simp only [Steps.bind_ok, hlive]
      rfl

theorem isGone_spared {filter : OrderFilter} {live : List LiveRow} {recordId : String} :
    isGone ((LiveRow.spared filter live).map LiveRow.row) recordId = true ↔
      ∀ one ∈ live, one.order.id.toText = recordId → filter.wants one.order = true := by
  simp only [isGone, List.all_map, List.all_eq_true, LiveRow.spared, List.mem_filter,
    Function.comp_apply, LiveRow.id_eq, Option.isSome_some, Bool.true_and, bne_iff_ne, ne_eq,
    Option.some.injEq, Bool.not_eq_true', and_imp]
  constructor
  · intro h one hone hid
    by_contra hspared
    exact h one hone (Bool.eq_false_of_not_eq_true hspared) hid
  · intro h one hone hspared hid
    rw [h one hone hid] at hspared
    cases hspared

theorem mem_carriers {caseIds : List CaseId} {trail : Trail} {recordId : String} :
    recordId ∈ trail.carriers caseIds ↔ ∃ row ∈ trail.rows, row.recordId = recordId ∧
      ∃ caseId ∈ caseIds, row.caseId = some (caseId.number : Int) := by
  simp only [Trail.carriers, List.mem_map, List.mem_filter, RevisionRow.showsAny,
    List.any_eq_true, beq_iff_eq]
  constructor
  · rintro ⟨row, ⟨hrow, hshows⟩, hid⟩
    exact ⟨row, hrow, hid, hshows⟩
  · rintro ⟨row, hrow, hid, hshows⟩
    exact ⟨row, ⟨hrow, hshows⟩, hid⟩

section Purge

variable {filter : OrderFilter} {live : List LiveRow} {trail : Trail} {matched : List Order}

theorem mem_matched
    (hperm : matched.Perm ((LiveRow.wanted filter live).map LiveRow.order)) {order : Order} :
    order ∈ matched ↔ ∃ one ∈ live, filter.wants one.order = true ∧ one.order = order := by
  rw [hperm.mem_iff, List.mem_map]
  simp only [LiveRow.wanted, List.mem_filter, and_assoc]

/-- After the removal the carriers of some case ids are the old ones and the removed orders. -/
theorem mem_carriers_buried {caseIds : List CaseId}
    (hperm : matched.Perm ((LiveRow.wanted (.caseIds caseIds) live).map LiveRow.order))
    (clock : Clock) {recordId : String} :
    recordId ∈ (trail.buried clock 0 matched).carriers caseIds ↔
      recordId ∈ trail.carriers caseIds ∨
        ∃ one ∈ live, one.order.id.toText = recordId ∧ one.order.caseId ∈ caseIds := by
  rw [mem_carriers, Trail.rows_buried, mem_carriers]
  constructor
  · rintro ⟨row, hrow, hid, hshows⟩
    rcases List.mem_append.mp hrow with hrow | hrow
    · exact .inl ⟨row, hrow, hid, hshows⟩
    · obtain ⟨order, horder, number, time, rfl⟩ := mem_tombstones hrow
      obtain ⟨one, hone, hwants, rfl⟩ := (mem_matched hperm).mp horder
      exact .inr ⟨one, hone, hid, of_decide_eq_true hwants⟩
  · rintro (⟨row, hrow, hid, hshows⟩ | ⟨one, hone, hid, hcase⟩)
    · exact ⟨row, List.mem_append_left _ hrow, hid, hshows⟩
    · have horder : one.order ∈ matched :=
        (mem_matched hperm).mpr ⟨one, hone, decide_eq_true hcase, rfl⟩
      obtain ⟨number, time, hrow⟩ := tombstone_of_mem clock trail.last 0 horder
      exact ⟨_, List.mem_append_right _ hrow, hid, one.order.caseId, hcase, rfl⟩

/-- The purge, which looks at the tables after the removal, takes away what the tables before it
tell. -/
theorem purges_eq_taken
    (hperm : matched.Perm ((LiveRow.wanted filter live).map LiveRow.order)) (clock : Clock) :
    purges filter ((LiveRow.spared filter live).map LiveRow.row)
      (trail.buried clock 0 matched) = fun row => decide (Taken filter live trail row) := by
  funext row
  rw [Bool.eq_iff_iff, decide_eq_true_eq]
  cases filter with
  | ids ids =>
      simp only [purges, Taken, RevisionRow.belongsToAny, RevisionRow.belongsTo,
        List.any_eq_true, beq_iff_eq]
  | caseIds caseIds =>
      simp only [purges, Taken, LeftCase, Bool.and_eq_true, List.contains_iff_mem,
        mem_carriers_buried hperm clock, isGone_spared, OrderFilter.wants, decide_eq_true_eq,
        mem_carriers]
      exact and_comm

/-- The ids of the live orders are different from each other, as their table demands. -/
def LiveRow.IdsNodup (live : List LiveRow) : Prop :=
  (live.map fun one => one.order.id).Nodup

theorem LiveRow.IdsNodup.eq {one other : LiveRow} (hids : LiveRow.IdsNodup live)
    (hone : one ∈ live) (hother : other ∈ live) (hsame : one.order.id = other.order.id) :
    one = other :=
  List.inj_on_of_nodup_map hids hone hother hsame

/-- A removed order loses all its revisions. -/
theorem taken_of_wanted (hids : LiveRow.IdsNodup live) {one : LiveRow} (hone : one ∈ live)
    (hwants : filter.wants one.order = true) {row : RevisionRow}
    (hrow : row.recordId = one.order.id.toText) : Taken filter live trail row := by
  cases filter with
  | ids ids => exact ⟨one.order.id, of_decide_eq_true hwants, hrow⟩
  | caseIds caseIds =>
      have hcase : one.order.caseId ∈ caseIds := of_decide_eq_true hwants
      refine ⟨?_, .inr ⟨one, hone, hrow.symm, hcase⟩⟩
      intro other hother hid
      rw [hrow] at hid
      rw [hids.eq hother hone (OrderId.toText_injective hid)]
      exact hcase

/-- An order that stays keeps all its revisions, wherever it was once. -/
theorem not_taken_of_spared {one : LiveRow} (hone : one ∈ live)
    (hspared : filter.wants one.order = false) {row : RevisionRow}
    (hrow : row.recordId = one.order.id.toText) : ¬ Taken filter live trail row := by
  intro htaken
  cases filter with
  | ids ids =>
      obtain ⟨id, hid, hsame⟩ := htaken
      rw [hrow, OrderId.toText_inj] at hsame
      exact absurd (hsame ▸ hid) (of_decide_eq_false hspared)
  | caseIds caseIds => exact absurd (htaken.1 one hone hrow.symm) (of_decide_eq_false hspared)

theorem taken_tombstone (hids : LiveRow.IdsNodup live)
    (hperm : matched.Perm ((LiveRow.wanted filter live).map LiveRow.order)) {clock : Clock}
    {last i : Nat} {row : RevisionRow} (hrow : row ∈ tombstones clock last i matched) :
    Taken filter live trail row := by
  obtain ⟨order, horder, number, time, rfl⟩ := mem_tombstones hrow
  obtain ⟨one, hone, hwants, rfl⟩ := (mem_matched hperm).mp horder
  exact taken_of_wanted hids hone hwants rfl

def Trail.without (trail : Trail) (filter : OrderFilter) (live : List LiveRow) : Trail where
  rows := trail.rows.filter fun row => !decide (Taken filter live trail row)
  counter := some (trail.last + (LiveRow.wanted filter live).length)

def DeletionSummary.ofLive (filter : OrderFilter) (live : List LiveRow) (trail : Trail) :
    DeletionSummary where
  referent := filter.referent
  requested := filter.size
  recordsDeleted := (LiveRow.wanted filter live).length
  revisionsDeleted := trail.rows.countP (fun row => decide (Taken filter live trail row)) +
    (LiveRow.wanted filter live).length

/-- The purge takes all last revisions away, each of them once. -/
theorem countP_buried (hids : LiveRow.IdsNodup live)
    (hperm : matched.Perm ((LiveRow.wanted filter live).map LiveRow.order)) (clock : Clock) :
    (trail.buried clock 0 matched).rows.countP
      (fun row => decide (Taken filter live trail row)) =
        (DeletionSummary.ofLive filter live trail).revisionsDeleted := by
  have hgone : ∀ row ∈ tombstones clock trail.last 0 matched,
      decide (Taken filter live trail row) = true :=
    fun row hrow => decide_eq_true (taken_tombstone hids hperm hrow)
  rw [Trail.rows_buried, List.countP_append, List.countP_eq_length.mpr hgone, length_tombstones,
    hperm.length_eq, List.length_map]
  rfl

theorem purge_buried (hids : LiveRow.IdsNodup live)
    (hperm : matched.Perm ((LiveRow.wanted filter live).map LiveRow.order))
    (hsome : matched ≠ []) (clock : Clock) :
    (trail.buried clock 0 matched).purge (fun row => decide (Taken filter live trail row)) =
      trail.without filter live := by
  have hnone : (tombstones clock trail.last 0 matched).filter
      (fun row => !decide (Taken filter live trail row)) = [] := by
    rw [List.filter_eq_nil_iff]
    intro row hrow
    simp [taken_tombstone hids hperm hrow]
  rw [Trail.purge, Trail.rows_buried, List.filter_append, hnone, List.append_nil,
    Trail.counter_buried trail clock 0 hsome, hperm.length_eq, List.length_map, Trail.without]

end Purge

/-! ## The whole deletion -/

section Delete

variable {db : Database} {live : List LiveRow} {trail : Trail} {filter : OrderFilter}

theorem deleteSelected_of_full (hdb : db.Holds (live.map LiveRow.row) trail)
    (clock : Clock) (hkeys : filter.isEmpty = false)
    (hsome : LiveRow.wanted filter live ≠ [])
    (hfull : maxInteger < trail.last + (LiveRow.wanted filter live).length) :
    ∃ failure, deleteSelected filter clock db = (.error failure, db) ∧
      failure.cause = .fault .counterExhausted := by
  obtain ⟨failure, after, hremove, hcause⟩ :=
    removeSelected_of_full hdb filter clock hsome hfull
  refine ⟨failure, ?_, hcause⟩
  rw [deleteSelected, Engine.deleteSelected, if_neg (by simp [hkeys])]
  apply Session.transaction_of_error
  exact Steps.bind_of_error hremove

theorem deleteSelected_of_unanswered (hdb : db.Holds (live.map LiveRow.row) trail) (clock : Clock)
    (hkeys : filter.isEmpty = false)
    (hroom : trail.HasRoom (LiveRow.wanted filter live).length)
    (hunanswered : ¬ filter.Answered (live.map LiveRow.order)) :
    ∃ detail, deleteSelected filter clock db =
      (.error (.ofError (.notFound filter.referent detail)), db) := by
  obtain ⟨matched, hperm, hremove⟩ := removeSelected_of_room hdb filter clock hroom
  rw [← answered_of_matched hperm, ← missingKeys_eq_nil] at hunanswered
  refine ⟨", ".intercalate (missingKeys filter matched), ?_⟩
  rw [deleteSelected, Engine.deleteSelected, if_neg (by simp [hkeys])]
  apply Session.transaction_of_error
  rw [← removeSelected, Steps.bind_of_ok hremove]
  cases hmissing : missingKeys filter matched with
  | nil => exact absurd hmissing hunanswered
  | cons key keys => rfl

theorem deleteSelected_of_answered (hdb : db.Holds (live.map LiveRow.row) trail) (clock : Clock)
    (hids : LiveRow.IdsNodup live) (hkeys : filter.isEmpty = false)
    (hroom : trail.HasRoom (LiveRow.wanted filter live).length)
    (hanswered : filter.Answered (live.map LiveRow.order)) :
    deleteSelected filter clock db =
      (.ok (.ofLive filter live trail),
        (db.withOrders ((LiveRow.spared filter live).map LiveRow.row)).withTrail
          (trail.without filter live)) := by
  obtain ⟨matched, hperm, hremove⟩ := removeSelected_of_room hdb filter clock hroom
  have hmatched := (answered_of_matched hperm).mpr hanswered
  have hsome : matched ≠ [] := by
    rintro rfl
    exact OrderFilter.filter_wants_ne_nil hkeys hmatched rfl
  have hpurge := purgeSelected_apply
    (Database.orders_withOrders (db.withTrail (trail.buried clock 0 matched))
      ((LiveRow.spared filter live).map LiveRow.row))
    (Database.trail_withTrail db (trail.buried clock 0 matched)) filter
  rw [purges_eq_taken hperm clock, countP_buried hids hperm clock,
    purge_buried hids hperm hsome clock] at hpurge
  rw [deleteSelected, Engine.deleteSelected, if_neg (by simp [hkeys])]
  apply Session.transaction_of_ok
  rw [← removeSelected, Steps.bind_of_ok hremove]
  simp only [missingKeys_eq_nil.mpr hmatched]
  rw [Steps.bind_of_ok hpurge, hperm.length_eq, List.length_map]
  rfl

end Delete

/-! ## Requests -/

theorem deleteOrders_of_unresolved {request : DeleteRequest} {error : OrderError}
    (hresolve : OrderFilter.resolve request.ids request.caseIds = .error error) (clock : Clock)
    (db : Database) : deleteOrders request clock db = (.error (.ofError error), db) := by
  have hdemand := Session.demand_error (α := OrderFilter) error db
  rw [← hresolve] at hdemand
  exact Steps.bind_of_error hdemand

theorem deleteOrders_of_resolved {request : DeleteRequest} {filter : OrderFilter}
    (hresolve : OrderFilter.resolve request.ids request.caseIds = .ok filter) (clock : Clock)
    (db : Database) : deleteOrders request clock db = deleteSelected filter clock db := by
  rw [deleteOrders, Engine.deleteOrders, hresolve]
  exact Steps.bind_of_ok (Session.demand_ok filter db)

def Trail.record (trail : Trail) (recordId : String) : List RevisionRow :=
  trail.rows.filter fun row => row.recordId == recordId

/-- What a deletion did to the tables and told of it: the orders that were asked for are gone,
and so is every revision of the records that lost their trail. A record loses all of it or
nothing. -/
structure Deleted (request : DeleteRequest) (filter : OrderFilter) (live : List LiveRow)
    (trail : Trail) (summary : DeletionSummary) (rows : List OrderRow) (left : Trail) :
    Prop where
  asked : ∀ order, filter.wants order = true ↔
    OrderFilter.Named request.ids request.caseIds order
  rows_eq : rows = (live.filter fun one => !filter.wants one.order).map LiveRow.row
  trail_eq : left.rows = trail.rows.filter fun row => !decide (Taken filter live trail row)
  counter_eq : left.counter = some (trail.last + summary.recordsDeleted)
  whole : ∀ recordId, left.record recordId = [] ∨ left.record recordId = trail.record recordId
  removed : ∀ one ∈ live, filter.wants one.order = true →
    left.record one.order.id.toText = []
  kept : ∀ one ∈ live, filter.wants one.order = false →
    left.record one.order.id.toText = trail.record one.order.id.toText
  referent_eq : summary.referent = filter.referent
  requested_eq : summary.requested = OrderFilter.distinctKeys request.ids request.caseIds
  recordsDeleted_eq : summary.recordsDeleted =
    (live.filter fun one => filter.wants one.order).length
  revisionsDeleted_eq : summary.revisionsDeleted =
    trail.rows.countP (fun row => decide (Taken filter live trail row)) + summary.recordsDeleted

section Exact

variable {filter : OrderFilter} {live : List LiveRow} {trail : Trail}

/-- Whether a row is taken away is decided by its record. -/
theorem taken_congr {row other : RevisionRow} (hsame : row.recordId = other.recordId) :
    Taken filter live trail row ↔ Taken filter live trail other := by
  cases filter with
  | ids ids => simp only [Taken, hsame]
  | caseIds caseIds => simp only [Taken, LeftCase, hsame]

theorem record_without (recordId : String) :
    (trail.without filter live).record recordId =
      (trail.record recordId).filter fun row => !decide (Taken filter live trail row) := by
  rw [Trail.record, Trail.without, List.filter_filter, Trail.record, List.filter_filter]
  simp only [Bool.and_comm]

theorem record_without_of_taken {recordId : String}
    (htaken : ∀ row, row.recordId = recordId → Taken filter live trail row) :
    (trail.without filter live).record recordId = [] := by
  rw [record_without, List.filter_eq_nil_iff]
  intro row hrow
  have hid : row.recordId = recordId := by simpa using (List.mem_filter.mp hrow).2
  simp [htaken row hid]

theorem record_without_of_not_taken {recordId : String}
    (hkept : ∀ row, row.recordId = recordId → ¬ Taken filter live trail row) :
    (trail.without filter live).record recordId = trail.record recordId := by
  rw [record_without, List.filter_eq_self]
  intro row hrow
  have hid : row.recordId = recordId := by simpa using (List.mem_filter.mp hrow).2
  simp [hkept row hid]

/-- The rows of a record go together. -/
theorem record_without_whole (recordId : String) :
    (trail.without filter live).record recordId = [] ∨
      (trail.without filter live).record recordId = trail.record recordId := by
  by_cases htaken : ∃ row, row.recordId = recordId ∧ Taken filter live trail row
  · obtain ⟨row, hid, htaken⟩ := htaken
    left
    apply record_without_of_taken
    intro other hother
    exact (taken_congr (hother.trans hid.symm)).mpr htaken
  · right
    apply record_without_of_not_taken
    intro row hid hrow
    exact htaken ⟨row, hid, hrow⟩

theorem deleted_ofLive {request : DeleteRequest} (hids : LiveRow.IdsNodup live)
    (hresolve : OrderFilter.resolve request.ids request.caseIds = .ok filter) :
    Deleted request filter live trail (.ofLive filter live trail)
      ((LiveRow.spared filter live).map LiveRow.row) (trail.without filter live) where
  asked := OrderFilter.wants_of_resolve hresolve
  rows_eq := rfl
  trail_eq := rfl
  counter_eq := rfl
  whole := record_without_whole
  removed := by
    intro one hone hwants
    apply record_without_of_taken
    intro row hrow
    exact taken_of_wanted hids hone hwants hrow
  kept := by
    intro one hone hspared
    apply record_without_of_not_taken
    intro row hrow
    exact not_taken_of_spared hone hspared hrow
  referent_eq := rfl
  requested_eq := (OrderFilter.keys_of_resolve hresolve).2
  recordsDeleted_eq := rfl
  revisionsDeleted_eq := rfl

/-- A deletion succeeds exactly when every key is that of a live order, and then it has done just
that. The trail may hold anything, as long as there are numbers left for the orders that go. -/
theorem deleteOrders_exact {db : Database} {request : DeleteRequest}
    (hdb : db.Holds (live.map LiveRow.row) trail) (hids : LiveRow.IdsNodup live)
    (hresolve : OrderFilter.resolve request.ids request.caseIds = .ok filter)
    (hroom : trail.HasRoom (live.filter fun one => filter.wants one.order).length)
    (clock : Clock) :
    ((∃ summary, (deleteOrders request clock db).1 = .ok summary) ↔
        filter.Answered (live.map LiveRow.order)) ∧
      ∀ summary, (deleteOrders request clock db).1 = .ok summary →
        ∃ rows left, (deleteOrders request clock db).2 = (db.withOrders rows).withTrail left ∧
          Deleted request filter live trail summary rows left := by
  have hkeys := (OrderFilter.keys_of_resolve hresolve).1
  rw [deleteOrders_of_resolved hresolve]
  by_cases hanswered : filter.Answered (live.map LiveRow.order)
  · have hdelete := deleteSelected_of_answered hdb clock hids hkeys hroom hanswered
    rw [hdelete]
    refine ⟨iff_of_true ⟨_, rfl⟩ hanswered, ?_⟩
    intro summary hsummary
    cases hsummary
    exact ⟨_, _, rfl, deleted_ofLive hids hresolve⟩
  · obtain ⟨detail, hdelete⟩ := deleteSelected_of_unanswered hdb clock hkeys hroom hanswered
    rw [hdelete]
    refine ⟨iff_of_false ?_ hanswered, ?_⟩
    · rintro ⟨summary, hsummary⟩
      cases hsummary
    · intro summary hsummary
      cases hsummary

end Exact

namespace Sample

/-- The first order moved to the second case id; the second one is under the first. -/
def movedLive : List LiveRow :=
  [.ofOrder (firstOrder.apply (fieldsUnder secondCase "2026/1")), .ofOrder secondOrder]

/-- A trail with a record that is not live, and with a row that shows nothing. -/
def movedTrail : Trail where
  rows :=
    [.ofSnapshot 1 .created noon firstOrder,
      .ofSnapshot 2 .modified noon (firstOrder.apply (fieldsUnder secondCase "2026/1")),
      .ofSnapshot 3 .created noon secondOrder,
      { RevisionRow.ofSnapshot 4 .modified noon secondOrder with caseId := none },
      { RevisionRow.ofSnapshot 5 .created noon firstOrder with recordId := "lost" }]
  counter := some 5

def movedDatabase : Database where
  versions := some [1]
  orders := some (movedLive.map LiveRow.row)
  trail := some movedTrail
  ordersNewer := false

end Sample

/-- The moved order keeps its trail, though it was once under the case id of the deletion. -/
theorem deleteOrders_exact_moved :
    let request : DeleteRequest := ⟨[], [Sample.firstCase.toText, Sample.firstCase.toText]⟩
    let answer := deleteOrders request Sample.clock Sample.movedDatabase
    answer.1 = .ok ⟨.caseId, 1, 1, 4⟩ ∧
      ∃ rows left, answer.2 = (Sample.movedDatabase.withOrders rows).withTrail left ∧
        Deleted request (.caseIds [Sample.firstCase]) Sample.movedLive Sample.movedTrail
          ⟨.caseId, 1, 1, 4⟩ rows left := by
  intro request answer
  have hanswer : answer.1 = .ok ⟨.caseId, 1, 1, 4⟩ := by decide +kernel
  have hids : LiveRow.IdsNodup Sample.movedLive := by
    change [Sample.firstId, Sample.secondId].Nodup
    decide
  have hresolve : OrderFilter.resolve request.ids request.caseIds =
      .ok (.caseIds [Sample.firstCase]) := by
    decide +kernel
  have hroom : Sample.movedTrail.HasRoom (Sample.movedLive.filter fun one =>
      OrderFilter.wants (.caseIds [Sample.firstCase]) one.order).length := by
    unfold Trail.HasRoom
    decide
  exact ⟨hanswer, (deleteOrders_exact ⟨rfl, rfl⟩ hids hresolve hroom Sample.clock).2 _ hanswer⟩

end PaymentOrders.Store
