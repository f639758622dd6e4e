import PaymentOrders.Proofs.Store.History
/-!
# Deleting by id and by case id

The two ways to name the orders of a deletion purge the trail by different rules: by record, or by
every case id that a record ever showed. On a ledger no entry is without its order, so either rule
takes the entries of the orders that are asked for, and it does not matter how they were named.
-/

namespace PaymentOrders.Store

def under (caseIds : List CaseId) (orders : List Order) : List Order :=
  orders.filter fun order => order.caseId ∈ caseIds

theorem mem_under {caseIds : List CaseId} {orders : List Order} {order : Order} :
    order ∈ under caseIds orders ↔ order ∈ orders ∧ order.caseId ∈ caseIds := by
  rw [under, List.mem_filter, decide_eq_true_iff]

/-! ## What the texts of a request name -/

section Texts

variable {caseIds : List CaseId} {orders : List Order} {idTexts : List String}

theorem named_caseTexts {order : Order} :
    OrderFilter.Named [] (caseIds.map CaseId.toText) order ↔ order.caseId ∈ caseIds := by
  constructor
  · rintro (⟨text, htext, _⟩ | ⟨text, htext, hread⟩)
    · cases htext
    · obtain ⟨caseId, hcase, rfl⟩ := List.mem_map.mp htext
      rw [CaseId.parseField_toText] at hread
      exact Except.ok.inj hread ▸ hcase
  · intro hcase
    exact .inr ⟨_, List.mem_map_of_mem hcase, CaseId.parseField_toText ..⟩

theorem distinctKeys_caseTexts (caseIds : List CaseId) :
    OrderFilter.distinctKeys [] (caseIds.map CaseId.toText) = caseIds.dedup.length := by
  have hread : (fun text => (CaseId.parseField "case_ids" text).toOption) ∘ CaseId.toText =
      some := by
    funext caseId
    rw [Function.comp_apply, CaseId.parseField_toText]
    rfl
  rw [OrderFilter.distinctKeys, List.filterMap_map, hread, List.filterMap_some]
  simp

/-- Texts of ids that name the orders under some case ids, each at least once. -/
structure NamesUnder (idTexts : List String) (caseIds : List CaseId) (orders : List Order) :
    Prop where
  only : ∀ text ∈ idTexts, ∃ order ∈ under caseIds orders,
    OrderId.parseField "ids" text = .ok order.id
  all : ∀ order ∈ under caseIds orders, ∃ text ∈ idTexts,
    OrderId.parseField "ids" text = .ok order.id

theorem NamesUnder.named_iff (hnames : NamesUnder idTexts caseIds orders)
    (hids : (orders.map Order.id).Nodup) {order : Order} (horder : order ∈ orders) :
    OrderFilter.Named idTexts [] order ↔ order.caseId ∈ caseIds := by
  constructor
  · rintro (⟨text, htext, hread⟩ | ⟨text, htext, _⟩)
    · obtain ⟨other, hother, hown⟩ := hnames.only text htext
      obtain ⟨hlive, hcase⟩ := mem_under.mp hother
      have hid : other.id = order.id := Except.ok.inj (hown.symm.trans hread)
      rwa [List.inj_on_of_nodup_map hids hlive horder hid] at hcase
    · cases htext
  · intro hcase
    exact .inl (hnames.all order (mem_under.mpr ⟨horder, hcase⟩))

/-- The ids of different orders are different keys. -/
theorem NamesUnder.distinctKeys_eq (hnames : NamesUnder idTexts caseIds orders)
    (hids : (orders.map Order.id).Nodup) :
    OrderFilter.distinctKeys idTexts [] = (under caseIds orders).length := by
  have hnodup : ((under caseIds orders).map Order.id).Nodup :=
    hids.sublist (List.filter_sublist.map Order.id)
  let keys := idTexts.filterMap fun text => (OrderId.parseField "ids" text).toOption
  -- No id occurs twice on either side, so it is enough that the same ids occur.
  have hperm : keys.dedup.Perm ((under caseIds orders).map Order.id) := by
    rw [List.perm_ext_iff_of_nodup (List.nodup_dedup _) hnodup]
    intro id
    rw [List.mem_dedup, List.mem_filterMap, List.mem_map]
    constructor
    · rintro ⟨text, htext, hread⟩
      obtain ⟨order, horder, hown⟩ := hnames.only text htext
      rw [hown] at hread
      exact ⟨order, horder, Option.some.inj hread⟩
    · rintro ⟨order, horder, rfl⟩
      obtain ⟨text, htext, hread⟩ := hnames.all order horder
      exact ⟨text, htext, by rw [hread]; rfl⟩
  rw [OrderFilter.distinctKeys, hperm.length_eq, List.length_map]
  simp

/-- The case ids of live orders are keys that are all answered. -/
theorem exists_resolve_caseTexts (hsome : caseIds ≠ [])
    (hcarried : ∀ caseId ∈ caseIds, ∃ order ∈ orders, order.caseId = caseId) :
    ∃ keys, OrderFilter.resolve [] (caseIds.map CaseId.toText) = .ok (.caseIds keys) ∧
      OrderFilter.Answered (.caseIds keys) orders := by
  have hread : ∀ text ∈ caseIds.map CaseId.toText, ∃ order ∈ orders,
      CaseId.parseField "case_ids" text = .ok order.caseId := by
    intro text htext
    obtain ⟨caseId, hcase, rfl⟩ := List.mem_map.mp htext
    obtain ⟨order, horder, rfl⟩ := hcarried caseId hcase
    exact ⟨order, horder, CaseId.parseField_toText ..⟩
  obtain ⟨keys, hresolve⟩ := OrderFilter.exists_resolve_caseIds (by simpa using hsome)
    fun text htext => let ⟨order, _, hown⟩ := hread text htext; ⟨order.caseId, hown⟩
  exact ⟨keys, hresolve, OrderFilter.answered_of_resolve hresolve (by simp) hread⟩

theorem NamesUnder.exists_resolve (hnames : NamesUnder idTexts caseIds orders)
    (hsome : caseIds ≠ [])
    (hcarried : ∀ caseId ∈ caseIds, ∃ order ∈ orders, order.caseId = caseId) :
    ∃ keys, OrderFilter.resolve idTexts [] = .ok (.ids keys) ∧
      OrderFilter.Answered (.ids keys) orders := by
  have hidTexts : idTexts ≠ [] := by
    obtain ⟨caseId, hcase⟩ := List.exists_mem_of_ne_nil _ hsome
    obtain ⟨order, horder, rfl⟩ := hcarried caseId hcase
    obtain ⟨text, htext, _⟩ := hnames.all order (mem_under.mpr ⟨horder, hcase⟩)
    exact List.ne_nil_of_mem htext
  have hread : ∀ text ∈ idTexts, ∃ order ∈ orders,
      OrderId.parseField "ids" text = .ok order.id := by
    intro text htext
    obtain ⟨order, horder, hown⟩ := hnames.only text htext
    exact ⟨order, (mem_under.mp horder).1, hown⟩
  obtain ⟨keys, hresolve⟩ := OrderFilter.exists_resolve_ids hidTexts
    fun text htext => let ⟨order, _, hown⟩ := hread text htext; ⟨order.id, hown⟩
  exact ⟨keys, hresolve, OrderFilter.answered_of_resolve hresolve hread (by simp)⟩

end Texts

/-! ## Deletions that ask for the same orders -/

namespace Ledger

variable {ledger : Ledger} {filter other : OrderFilter}

theorem removes_congr (hsame : ∀ order ∈ ledger.orders, filter.wants order = other.wants order)
    (id : OrderId) : ledger.removes filter id = ledger.removes other id := by
  rw [removes, removes, Bool.eq_iff_iff, List.any_eq_true, List.any_eq_true]
  constructor
  · rintro ⟨order, horder, hremoves⟩
    exact ⟨order, horder, hsame order horder ▸ hremoves⟩
  · rintro ⟨order, horder, hremoves⟩
    exact ⟨order, horder, (hsame order horder).symm ▸ hremoves⟩

/-- What a deletion leaves depends on the live orders that it asks for. -/
theorem remove_congr (hsame : ∀ order ∈ ledger.orders, filter.wants order = other.wants order) :
    ledger.remove filter = ledger.remove other := by
  have hwanted : ledger.orders.filter filter.wants = ledger.orders.filter other.wants :=
    List.filter_congr hsame
  have hspared : (ledger.orders.filter fun order => !filter.wants order) =
      ledger.orders.filter fun order => !other.wants order :=
    List.filter_congr fun order horder => congrArg not (hsame order horder)
  rw [remove, remove, hwanted, hspared]
  simp only [removes_congr hsame]

/-- How many entries of a ledger are those of orders that a filter asks for. -/
def entriesOf (ledger : Ledger) (filter : OrderFilter) : Nat :=
  ledger.entries.countP fun entry => ledger.removes filter entry.order.id

/-- Both rules of the purge take the entries of the removed orders, and one more for each. -/
theorem WellKept.revisionsDeleted_eq (hkept : ledger.WellKept) :
    (DeletionSummary.ofLive filter ledger.live ledger.trail).revisionsDeleted =
      ledger.entriesOf filter + (ledger.orders.filter filter.wants).length := by
  have hcount : ledger.trail.rows.countP
      (fun row => decide (Taken filter ledger.live ledger.trail row)) =
        ledger.entriesOf filter := by
    change (ledger.entries.map LedgerEntry.toRow).countP _ = _
    rw [List.countP_map]
    apply List.countP_congr
    intro entry hentry
    rw [Function.comp_apply, hkept.taken_toRow hentry]
  rw [DeletionSummary.ofLive, hcount, wanted_live, List.length_map]

/-- A deletion does what any filter says that asks for the same live orders. -/
theorem WellKept.deleteOrders_like (hkept : ledger.WellKept) {request : DeleteRequest}
    (hresolve : OrderFilter.resolve request.ids request.caseIds = .ok filter)
    (hanswered : filter.Answered ledger.orders)
    (hsame : ∀ order ∈ ledger.orders, filter.wants order = other.wants order)
    (hroom : ledger.trail.last + (ledger.orders.filter other.wants).length ≤ maxInteger)
    (clock : Clock) :
    deleteOrders request clock ledger.database =
      (.ok {
        referent := filter.referent
        requested := OrderFilter.distinctKeys request.ids request.caseIds
        recordsDeleted := (ledger.orders.filter other.wants).length
        revisionsDeleted :=
          ledger.entriesOf other + (ledger.orders.filter other.wants).length },
        (ledger.remove other).database) := by
  have hwanted : ledger.orders.filter filter.wants = ledger.orders.filter other.wants :=
    List.filter_congr hsame
  have hentries : ledger.entriesOf filter = ledger.entriesOf other := by
    simp only [entriesOf, removes_congr hsame]
  have hrecords : (LiveRow.wanted filter ledger.live).length =
      (ledger.orders.filter other.wants).length := by
    rw [wanted_live, List.length_map, hwanted]
  have hrevisions : (DeletionSummary.ofLive filter ledger.live ledger.trail).revisionsDeleted =
      ledger.entriesOf other + (ledger.orders.filter other.wants).length := by
    rw [hkept.revisionsDeleted_eq, hentries, hwanted]
  rw [deleteOrders_done hresolve (hwanted ▸ hroom) hkept hanswered, remove_congr hsame,
    ← hrevisions, ← (OrderFilter.keys_of_resolve hresolve).2, ← hrecords]
  rfl

theorem WellKept.deleteOrders_like_exhausted (hkept : ledger.WellKept) {request : DeleteRequest}
    (hresolve : OrderFilter.resolve request.ids request.caseIds = .ok filter)
    (hsame : ∀ order ∈ ledger.orders, filter.wants order = other.wants order)
    (hfull : ¬ ledger.trail.last + (ledger.orders.filter other.wants).length ≤ maxInteger)
    (clock : Clock) :
    ∃ failure, deleteOrders request clock ledger.database = (.error failure, ledger.database) ∧
      failure.cause = .fault .counterExhausted := by
  have hwanted : ledger.orders.filter filter.wants = ledger.orders.filter other.wants :=
    List.filter_congr hsame
  exact deleteOrders_exhausted hresolve hkept (hwanted ▸ hfull) clock

end Ledger

/-- After any run, deleting the orders under some case ids leaves the same orders, the same trail
and the same counter whether they are named by these case ids or by their own ids, in whatever
spelling and order. Both ways tell the same numbers of removed orders and revisions, or the
counter has too few numbers left for either of them. -/
theorem delete_modes_agree (calls : List Mutation) :
    ∃ (orders : List Order) (trail : Trail),
      (Run.of calls).database.Holds (orders.map OrderRow.ofOrder) trail ∧
      ∀ (caseIds : List CaseId) (idTexts : List String) (clock clock' : Clock), caseIds ≠ [] →
        (∀ caseId ∈ caseIds, ∃ order ∈ orders, order.caseId = caseId) →
        NamesUnder idTexts caseIds orders →
        let gone := (under caseIds orders).length
        let byCase := deleteOrders ⟨[], caseIds.map CaseId.toText⟩ clock (Run.of calls).database
        let byId := deleteOrders ⟨idTexts, []⟩ clock' (Run.of calls).database
        byCase.2 = byId.2 ∧
          (trail.last + gone ≤ maxInteger → ∃ revisions,
            byCase.1 = .ok ⟨.caseId, caseIds.dedup.length, gone, revisions⟩ ∧
              byId.1 = .ok ⟨.id, gone, gone, revisions⟩) ∧
          (maxInteger < trail.last + gone →
            (∃ failure, byCase.1 = .error failure ∧ failure.cause = .fault .counterExhausted) ∧
              ∃ failure, byId.1 = .error failure ∧ failure.cause = .fault .counterExhausted) := by
  obtain ⟨ledger, hkeeps⟩ := Run.exists_ledger calls
  have hkept := hkeeps.kept
  rw [hkeeps.database_eq]
  refine ⟨ledger.orders, ledger.trail, ledger.holds, ?_⟩
  intro caseIds idTexts clock clock' hsome hcarried hnames gone byCase byId
  obtain ⟨keys, hbyCase, hanswered⟩ := exists_resolve_caseTexts hsome hcarried
  obtain ⟨keys', hbyId, hanswered'⟩ := hnames.exists_resolve hsome hcarried
  have hsame : ∀ order ∈ ledger.orders, OrderFilter.wants (.caseIds keys) order =
      OrderFilter.wants (.caseIds caseIds) order := by
    intro order _
    rw [Bool.eq_iff_iff, OrderFilter.wants_of_resolve hbyCase, named_caseTexts]
    exact decide_eq_true_iff.symm
  have hsame' : ∀ order ∈ ledger.orders, OrderFilter.wants (.ids keys') order =
      OrderFilter.wants (.caseIds caseIds) order := by
    intro order horder
    rw [Bool.eq_iff_iff, OrderFilter.wants_of_resolve hbyId, hnames.named_iff hkept.ids horder]
    exact decide_eq_true_iff.symm
  by_cases hroom : ledger.trail.last + gone ≤ maxInteger
  · have hcase : byCase = _ := hkept.deleteOrders_like hbyCase hanswered hsame hroom clock
    have hid : byId = _ := hkept.deleteOrders_like hbyId hanswered' hsame' hroom clock'
    rw [distinctKeys_caseTexts] at hcase
    rw [hnames.distinctKeys_eq hkept.ids] at hid
    rw [hcase, hid]
    exact ⟨rfl, fun _ => ⟨_, rfl, rfl⟩, fun hfull => absurd hroom (Nat.not_le.mpr hfull)⟩
  · have hcase : ∃ failure, byCase = (.error failure, ledger.database) ∧
        failure.cause = .fault .counterExhausted :=
      hkept.deleteOrders_like_exhausted hbyCase hsame hroom clock
    have hid : ∃ failure, byId = (.error failure, ledger.database) ∧
        failure.cause = .fault .counterExhausted :=
      hkept.deleteOrders_like_exhausted hbyId hsame' hroom clock'
    obtain ⟨failure, hcase, hcause⟩ := hcase
    obtain ⟨failure', hid, hcause'⟩ := hid
    rw [hcase, hid]
    refine ⟨rfl, fun h => absurd h hroom, fun _ => ?_⟩
    exact ⟨⟨failure, rfl, hcause⟩, failure', rfl, hcause'⟩

/-- The first order was once under the case id of the deletion, which leaves it alone either way;
the id of the other order is written with space around it. -/
theorem delete_modes_agree_moved :
    let db := (Run.of (Sample.movedAway.take 3)).database
    let byCase := deleteOrders ⟨[], [Sample.firstCase.toText]⟩ Sample.clock db
    let byId := deleteOrders ⟨[" 00000000000000000000000002 "], []⟩ Sample.clock db
    byCase.2 = byId.2 ∧ ∃ revisions, byCase.1 = .ok ⟨.caseId, 1, 1, revisions⟩ ∧
      byId.1 = .ok ⟨.id, 1, 1, revisions⟩ := by
  intro db byCase byId
  let moved := Sample.firstOrder.apply (Sample.fieldsUnder Sample.secondCase "2026/1")
  obtain ⟨orders, trail, hholds, hagree⟩ := delete_modes_agree (Sample.movedAway.take 3)
  have hrows : db.orders = some ([moved, Sample.secondOrder].map OrderRow.ofOrder) := by
    decide +kernel
  have hlast : db.trail.map Trail.last = some 3 := by decide +kernel
  have horders : orders = [moved, Sample.secondOrder] :=
    List.map_injective_iff.mpr OrderRow.ofOrder_injective
      (Option.some.inj (hholds.orders_eq.symm.trans hrows))
  have htrail : trail.last = 3 := by
    have heq : db.trail = some trail := hholds.trail_eq
    rwa [heq, Option.map_some, Option.some.injEq] at hlast
  subst horders
  have hunder : under [Sample.firstCase] [moved, Sample.secondOrder] = [Sample.secondOrder] := by
    decide +kernel
  have hread : OrderId.parseField "ids" " 00000000000000000000000002 " =
      .ok Sample.secondOrder.id := by
    decide +kernel
  have hnames : NamesUnder [" 00000000000000000000000002 "] [Sample.firstCase]
      [moved, Sample.secondOrder] := by
    constructor
    · rw [hunder]
      simpa using hread
    · rw [hunder]
      simpa using hread
  obtain ⟨hafter, htold, _⟩ := hagree [Sample.firstCase] _ Sample.clock Sample.clock (by simp)
    (by simp [Sample.secondOrder, Sample.fieldsUnder, Order.create]) hnames
  rw [hunder, htrail] at htold
  exact ⟨hafter, htold (by decide)⟩

end PaymentOrders.Store
