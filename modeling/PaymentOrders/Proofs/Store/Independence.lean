import PaymentOrders.Proofs.Store.Ledger.Records
import PaymentOrders.Proofs.Store.Modes
import PaymentOrders.Proofs.Store.Pairs
/-!
# Changes of different orders

Two changes of different orders come to the same in either order, but for the numbers of the
revisions, and deleting many orders at once is deleting them part by part.
-/

namespace PaymentOrders.Store

/-- Some texts, each of which is the id of a live order. -/
structure NamesLive (texts : List String) (orders : List Order) : Prop where
  nonempty : texts ≠ []
  live : ∀ text ∈ texts, ∃ order ∈ orders, OrderId.parseField "ids" text = .ok order.id

theorem NamesLive.exists_order {texts : List String} {orders : List Order}
    (h : NamesLive texts orders) : ∀ id ∈ namedIds texts, ∃ order ∈ orders, order.id = id := by
  intro id hid
  obtain ⟨text, htext, hread⟩ := mem_namedIds.mp hid
  obtain ⟨order, horder, hown⟩ := h.live text htext
  exact ⟨order, horder, Except.ok.inj (hown.symm.trans hread)⟩

namespace Ledger

/-- The ledger without the orders with some ids and their entries. -/
def without (ledger : Ledger) (ids : Finset OrderId) : Ledger where
  orders := ledger.orders.filter fun order => order.id ∉ ids
  entries := ledger.entries.filter fun entry => entry.order.id ∉ ids
  counter := some (ledger.trail.last + ids.card)

/-- How many entries are those of orders with some ids. -/
def entriesWith (ledger : Ledger) (ids : Finset OrderId) : Nat :=
  ledger.entries.countP fun entry => entry.order.id ∈ ids

def summaryOf (ledger : Ledger) (ids : Finset OrderId) : DeletionSummary where
  referent := .id
  requested := ids.card
  recordsDeleted := ids.card
  revisionsDeleted := ledger.entriesWith ids + ids.card

section Without

variable {ledger : Ledger} {one two : Finset OrderId}

theorem last_without (ledger : Ledger) (ids : Finset OrderId) :
    (ledger.without ids).trail.last = ledger.trail.last + ids.card :=
  last_of_counter fun _ hentry =>
    Nat.le_add_right_of_le (number_le_last (List.mem_of_mem_filter hentry))

theorem without_union (ledger : Ledger) (hdisjoint : Disjoint one two) :
    (ledger.without one).without two = ledger.without (one ∪ two) := by
  have hunion (id : OrderId) :
      (decide (id ∉ two) && decide (id ∉ one)) = decide (id ∉ one ∪ two) := by
    rw [← Bool.decide_and, decide_eq_decide, Finset.notMem_union]
    exact and_comm
  have hcounter : (ledger.without one).trail.last + two.card =
      ledger.trail.last + (one ∪ two).card := by
    rw [last_without, Finset.card_union_of_disjoint hdisjoint, Nat.add_assoc]
  rw [without, hcounter]
  simp only [without, List.filter_filter, hunion]

theorem entriesWith_union (ledger : Ledger) (hdisjoint : Disjoint one two) :
    ledger.entriesWith (one ∪ two) = ledger.entriesWith one + ledger.entriesWith two := by
  rw [entriesWith, List.countP_eq_countP_filter_add _ _ fun entry => decide (entry.order.id ∈ one),
    List.countP_filter, List.countP_filter]
  congr 1
  · apply List.countP_congr
    intro entry _
    simp only [Finset.mem_union, Bool.and_eq_true, decide_eq_true_iff]
    exact ⟨fun h => h.2, fun h => ⟨.inl h, h⟩⟩
  · apply List.countP_congr
    intro entry _
    have hapart : entry.order.id ∈ two → entry.order.id ∉ one :=
      fun htwo hone => Finset.disjoint_left.mp hdisjoint hone htwo
    simp only [Finset.mem_union, Bool.and_eq_true, Bool.not_eq_true', decide_eq_true_iff,
      decide_eq_false_iff_not]
    exact ⟨fun h => h.1.resolve_left h.2, fun h => ⟨.inr h, hapart h⟩⟩

theorem entriesWith_without (ledger : Ledger) (hdisjoint : Disjoint one two) :
    (ledger.without one).entriesWith two = ledger.entriesWith two := by
  rw [entriesWith, without, List.countP_filter]
  apply List.countP_congr
  intro entry _
  have hapart : entry.order.id ∈ two → entry.order.id ∉ one :=
    fun htwo hone => Finset.disjoint_left.mp hdisjoint hone htwo
  simpa using hapart

theorem summaryOf_without (ledger : Ledger) (hdisjoint : Disjoint one two) :
    (ledger.without one).summaryOf two = ledger.summaryOf two := by
  rw [summaryOf, entriesWith_without ledger hdisjoint]
  rfl

end Without

section Delete

variable {ledger : Ledger} {texts : List String}

theorem WellKept.exists_resolve_of_namesLive (hkept : ledger.WellKept)
    (h : NamesLive texts ledger.orders) :
    ∃ filter, OrderFilter.resolve texts [] = .ok filter ∧ filter.referent = .id ∧
      filter.Answered ledger.orders ∧
      (∀ order ∈ ledger.orders, filter.wants order = true ↔ order.id ∈ namedIds texts) ∧
      (ledger.orders.filter filter.wants).length = (namedIds texts).card := by
  obtain ⟨keys, hresolve⟩ := OrderFilter.exists_resolve_ids h.nonempty fun text htext =>
    let ⟨order, _, hown⟩ := h.live text htext; ⟨order.id, hown⟩
  have hwants : ∀ order ∈ ledger.orders, OrderFilter.wants (.ids keys) order = true ↔
      order.id ∈ namedIds texts := by
    intro order _
    rw [OrderFilter.wants_of_resolve hresolve, named_iff_mem_namedIds]
  exact ⟨.ids keys, hresolve, rfl, OrderFilter.answered_of_resolve hresolve h.live (by simp),
    hwants, hkept.length_filter_wants hwants h.exists_order⟩

/-- Deleting orders by their ids takes these orders and their entries, and tells how many. -/
theorem WellKept.deleteOrders_named (hkept : ledger.WellKept) (h : NamesLive texts ledger.orders)
    (hroom : ledger.trail.last + (namedIds texts).card ≤ maxInteger) (clock : Clock) :
    deleteOrders ⟨texts, []⟩ clock ledger.database =
        (.ok (ledger.summaryOf (namedIds texts)), (ledger.without (namedIds texts)).database) ∧
      (ledger.without (namedIds texts)).WellKept := by
  obtain ⟨filter, hresolve, hreferent, hanswered, hwants, hwanted⟩ :=
    hkept.exists_resolve_of_namesLive h
  have hremove : ledger.remove filter = ledger.without (namedIds texts) := by
    have horders := orders_remove hwants
    have hentries := hkept.entries_remove hwants
    rw [without, ← horders, ← hentries, ← hwanted]
    rfl
  have hentries : ledger.entriesOf filter = ledger.entriesWith (namedIds texts) := by
    apply List.countP_congr
    intro entry hentry
    obtain ⟨owner, howner, hid⟩ := hkept.owned entry hentry
    rw [← hid, hkept.removes_iff howner, hwants owner howner, decide_eq_true_iff]
  rw [← hwanted] at hroom
  have hdelete : deleteOrders ⟨texts, []⟩ clock ledger.database = _ :=
    hkept.deleteOrders_like hresolve hanswered (fun _ _ => rfl) hroom clock
  rw [hwanted, hentries, hremove, hreferent, ← card_namedIds] at hdelete
  exact ⟨hdelete, hremove ▸ hkept.remove hroom⟩

theorem WellKept.deleteOrders_named_exhausted (hkept : ledger.WellKept)
    (h : NamesLive texts ledger.orders)
    (hfull : maxInteger < ledger.trail.last + (namedIds texts).card) (clock : Clock) :
    ∃ failure, deleteOrders ⟨texts, []⟩ clock ledger.database =
      (.error failure, ledger.database) ∧ failure.cause = .fault .counterExhausted := by
  obtain ⟨filter, hresolve, _, _, _, hwanted⟩ := hkept.exists_resolve_of_namesLive h
  rw [← hwanted] at hfull
  exact deleteOrders_exhausted hresolve hkept (Nat.not_le.mpr hfull) clock

theorem namesLive_without {ids : Finset OrderId} (h : NamesLive texts ledger.orders)
    (hdisjoint : Disjoint ids (namedIds texts)) :
    NamesLive texts (ledger.without ids).orders where
  nonempty := h.nonempty
  live := by
    intro text htext
    obtain ⟨order, horder, hown⟩ := h.live text htext
    have hnamed : order.id ∈ namedIds texts := mem_namedIds.mpr ⟨text, htext, hown⟩
    have hstays : order.id ∉ ids := fun hid => Finset.disjoint_left.mp hdisjoint hid hnamed
    exact ⟨order, List.mem_filter.mpr ⟨horder, by simpa using hstays⟩, hown⟩

/-- Two deletions of different orders, one after the other, tell what each of them would tell
alone, and leave what is without all of the orders. -/
theorem WellKept.deleteOrders_in_turn (hkept : ledger.WellKept) {one two : List String}
    (hone : NamesLive one ledger.orders) (htwo : NamesLive two ledger.orders)
    (hdisjoint : Disjoint (namedIds one) (namedIds two))
    (hroom : ledger.trail.last + (namedIds one ∪ namedIds two).card ≤ maxInteger)
    (clock : Clock) :
    deleteOrders ⟨one, []⟩ clock ledger.database =
        (.ok (ledger.summaryOf (namedIds one)), (ledger.without (namedIds one)).database) ∧
      deleteOrders ⟨two, []⟩ clock (ledger.without (namedIds one)).database =
        (.ok (ledger.summaryOf (namedIds two)),
          (ledger.without (namedIds one ∪ namedIds two)).database) := by
  rw [Finset.card_union_of_disjoint hdisjoint, ← Nat.add_assoc] at hroom
  obtain ⟨hfirst, hkeptOne⟩ :=
    hkept.deleteOrders_named hone (Nat.le_of_add_right_le hroom) clock
  rw [← last_without] at hroom
  obtain ⟨hsecond, _⟩ :=
    hkeptOne.deleteOrders_named (namesLive_without htwo hdisjoint) hroom clock
  rw [ledger.summaryOf_without hdisjoint, ledger.without_union hdisjoint] at hsecond
  exact ⟨hfirst, hsecond⟩

end Delete

end Ledger

/-! ## Runs -/

/-- Two databases hold the same orders under the same largest number, and tell the same of every
order but for the numbers of its revisions. -/
structure AlikeButNumbers (db other : Database) : Prop where
  tables : ∃ (orders orders' : List Order) (trail trail' : Trail),
    db.Holds (orders.map OrderRow.ofOrder) trail ∧
      other.Holds (orders'.map OrderRow.ofOrder) trail' ∧
      orders.Perm orders' ∧ trail.last = trail'.last
  stories : ∀ id, ∃ revisions revisions', (revisionsOf id db).1 = .ok revisions ∧
    (revisionsOf id other).1 = .ok revisions' ∧
      revisions.map unnumbered = revisions'.map unnumbered

theorem Ledger.WellKept.alike {ledger other : Ledger} (hkept : ledger.WellKept)
    (hother : other.WellKept) (hrecords : ∀ id, ledger.recordOf id = other.recordOf id)
    (hlast : ledger.trail.last = other.trail.last) :
    AlikeButNumbers ledger.database other.database where
  tables := ⟨_, _, _, _, ledger.holds, other.holds, hkept.perm_of_recordOf hother hrecords, hlast⟩
  stories := by
    intro id
    refine ⟨ledger.history id, other.history id, ?_, ?_, congrArg Record.story (hrecords id)⟩
    · rw [hkept.revisionsOf_database]
    · rw [hother.revisionsOf_database]

/-- Two changes of different orders that succeed in either order. -/
structure BothWays (a b : Mutation) (db both both' : Database) : Prop where
  forward : ∃ first second between,
    a.perform db = (.ok first, between) ∧ b.perform between = (.ok second, both)
  back : ∃ first second between,
    b.perform db = (.ok first, between) ∧ a.perform between = (.ok second, both')

theorem BothWays.alike {ledger : Ledger} (hkept : ledger.WellKept) {a b : Mutation}
    {both both' : Database} (h : BothWays a b ledger.database both both')
    (hdisjoint : Disjoint a.ids b.ids) (ha : a.ById) (hb : b.ById) :
    AlikeButNumbers both both' := by
  obtain ⟨⟨first, second, _, hfirst, hsecond⟩, ⟨first', second', _, hfirst', hsecond'⟩⟩ := h
  obtain ⟨one, hone, rfl⟩ := Ledger.exists_step hkept hfirst
  obtain ⟨two, htwo, rfl⟩ := Ledger.exists_step (hone.wellKept hkept) hsecond
  obtain ⟨one', hone', rfl⟩ := Ledger.exists_step hkept hfirst'
  obtain ⟨two', htwo', rfl⟩ := Ledger.exists_step (hone'.wellKept hkept) hsecond'
  exact (htwo.wellKept (hone.wellKept hkept)).alike (htwo'.wellKept (hone'.wellKept hkept))
    (Ledger.recordOf_comm hkept hdisjoint ha hb hone htwo hone' htwo')
    (Ledger.last_comm hkept ha hb hone htwo hone' htwo')

theorem bothWays_of_ok {a b : Mutation} {db : Database} {first second first' second' : Answer}
    (hfirst : (a.perform db).1 = .ok first)
    (hsecond : (b.perform (a.perform db).2).1 = .ok second)
    (hfirst' : (b.perform db).1 = .ok first')
    (hsecond' : (a.perform (b.perform db).2).1 = .ok second') :
    BothWays a b db (b.perform (a.perform db).2).2 (a.perform (b.perform db).2).2 where
  forward := ⟨_, _, _, Prod.ext hfirst rfl, Prod.ext hsecond rfl⟩
  back := ⟨_, _, _, Prod.ext hfirst' rfl, Prod.ext hsecond' rfl⟩

/-- A deletion is that of its parts, in either order. -/
theorem Ledger.WellKept.deletions_add_up {ledger : Ledger} (hkept : ledger.WellKept)
    {one two all : List String} (hone : NamesLive one ledger.orders)
    (htwo : NamesLive two ledger.orders) (hall : NamesLive all ledger.orders)
    (hdisjoint : Disjoint (namedIds one) (namedIds two))
    (hunion : namedIds all = namedIds one ∪ namedIds two)
    (hroom : ledger.trail.last + (namedIds all).card ≤ maxInteger) :
    ∃ first second whole between between' left, ∀ clock,
      deleteOrders ⟨one, []⟩ clock ledger.database = (.ok first, between) ∧
      deleteOrders ⟨two, []⟩ clock between = (.ok second, left) ∧
      deleteOrders ⟨two, []⟩ clock ledger.database = (.ok second, between') ∧
      deleteOrders ⟨one, []⟩ clock between' = (.ok first, left) ∧
      deleteOrders ⟨all, []⟩ clock ledger.database = (.ok whole, left) ∧
      whole.recordsDeleted = first.recordsDeleted + second.recordsDeleted ∧
      whole.revisionsDeleted = first.revisionsDeleted + second.revisionsDeleted := by
  have hcard : (namedIds all).card = (namedIds one).card + (namedIds two).card := by
    rw [hunion, Finset.card_union_of_disjoint hdisjoint]
  have hrevisions := ledger.entriesWith_union hdisjoint
  rw [← hunion] at hrevisions
  refine ⟨ledger.summaryOf (namedIds one), ledger.summaryOf (namedIds two),
    ledger.summaryOf (namedIds all), (ledger.without (namedIds one)).database,
    (ledger.without (namedIds two)).database, (ledger.without (namedIds all)).database,
    fun clock => ?_⟩
  have hwhole := (hkept.deleteOrders_named hall hroom clock).1
  rw [hunion] at hroom
  obtain ⟨hfirst, hsecond⟩ := hkept.deleteOrders_in_turn hone htwo hdisjoint hroom clock
  rw [Finset.union_comm] at hroom
  obtain ⟨hfirst', hsecond'⟩ := hkept.deleteOrders_in_turn htwo hone hdisjoint.symm hroom clock
  rw [← hunion] at hsecond
  rw [Finset.union_comm, ← hunion] at hsecond'
  refine ⟨hfirst, hsecond, hfirst', hsecond', hwhole, hcard, ?_⟩
  simp only [Ledger.summaryOf, hrevisions, hcard]
  omega

/-- After any run, two changes that name different orders by their ids and that succeed in either
order leave the same orders, and of each order the same story but for the numbers. Deleting the
live orders of two separate sets of ids at once leaves what deleting one set after the other leaves,
in either order, and tells the sums of what these tell; where fewer numbers are left than there are
orders to delete, it fails and changes nothing. -/
theorem changes_of_different_orders (calls : List Mutation) :
    ∃ (orders : List Order) (trail : Trail),
      (Run.of calls).database.Holds (orders.map OrderRow.ofOrder) trail ∧
      (∀ a b both both', a.ById → b.ById → Disjoint a.ids b.ids →
        BothWays a b (Run.of calls).database both both' → AlikeButNumbers both both') ∧
      ∀ one two all, NamesLive one orders → NamesLive two orders → NamesLive all orders →
        Disjoint (namedIds one) (namedIds two) →
        namedIds all = namedIds one ∪ namedIds two →
        (trail.last + (namedIds all).card ≤ maxInteger →
          ∃ first second whole between between' left, ∀ clock,
            deleteOrders ⟨one, []⟩ clock (Run.of calls).database = (.ok first, between) ∧
            deleteOrders ⟨two, []⟩ clock between = (.ok second, left) ∧
            deleteOrders ⟨two, []⟩ clock (Run.of calls).database = (.ok second, between') ∧
            deleteOrders ⟨one, []⟩ clock between' = (.ok first, left) ∧
            deleteOrders ⟨all, []⟩ clock (Run.of calls).database = (.ok whole, left) ∧
            whole.recordsDeleted = first.recordsDeleted + second.recordsDeleted ∧
            whole.revisionsDeleted = first.revisionsDeleted + second.revisionsDeleted) ∧
        (maxInteger < trail.last + (namedIds all).card → ∀ clock, ∃ failure,
          deleteOrders ⟨all, []⟩ clock (Run.of calls).database =
            (.error failure, (Run.of calls).database) ∧
          failure.cause = .fault .counterExhausted) := by
  obtain ⟨ledger, hkeeps⟩ := Run.exists_ledger calls
  have hkept := hkeeps.kept
  rw [hkeeps.database_eq]
  refine ⟨ledger.orders, ledger.trail, ledger.holds, ?_, ?_⟩
  · intro a b both both' ha hb hdisjoint hways
    exact hways.alike hkept hdisjoint ha hb
  · intro one two all hone htwo hall hdisjoint hunion
    exact ⟨hkept.deletions_add_up hone htwo hall hdisjoint hunion,
      hkept.deleteOrders_named_exhausted hall⟩

namespace Sample

def createSecond : Mutation :=
  .create (fieldsUnder firstCase "2026/2") "clerk" secondId clock

def deleteSecond : Mutation :=
  .delete ⟨[secondId.toText], []⟩ clock

def moveFirst : Mutation :=
  .update firstId (fieldsUnder secondCase "2026/1") clock

theorem namesLive_first : NamesLive [firstId.toText] [firstOrder, secondOrder] where
  nonempty := by simp
  live := by decide +kernel

theorem namesLive_second : NamesLive [secondId.toText] [firstOrder, secondOrder] where
  nonempty := by simp
  live := by decide +kernel

theorem namesLive_both :
    NamesLive [firstId.toText, secondId.toText] [firstOrder, secondOrder] where
  nonempty := by simp
  live := by decide +kernel

end Sample

/-- The first order moves to another case id, before or after the second one is deleted; and the
two are deleted at once, or one after the other. -/
theorem changes_of_different_orders_two :
    let db := (Run.of [Sample.createFirst, Sample.createSecond]).database
    AlikeButNumbers (Sample.deleteSecond.perform (Sample.moveFirst.perform db).2).2
        (Sample.moveFirst.perform (Sample.deleteSecond.perform db).2).2 ∧
      ∃ first second whole between left, ∀ clock,
        deleteOrders ⟨[Sample.firstId.toText], []⟩ clock db = (.ok first, between) ∧
        deleteOrders ⟨[Sample.secondId.toText], []⟩ clock between = (.ok second, left) ∧
        deleteOrders ⟨[Sample.firstId.toText, Sample.secondId.toText], []⟩ clock db =
          (.ok whole, left) ∧
        whole.revisionsDeleted = first.revisionsDeleted + second.revisionsDeleted := by
  intro db
  let moved := Sample.firstOrder.apply (Sample.fieldsUnder Sample.secondCase "2026/1")
  obtain ⟨orders, trail, hholds, halike, hdelete⟩ :=
    changes_of_different_orders [Sample.createFirst, Sample.createSecond]
  have hrows : db.orders = some ([Sample.firstOrder, Sample.secondOrder].map OrderRow.ofOrder) := by
    decide +kernel
  have hlast : db.trail.map Trail.last = some 2 := by decide +kernel
  have horders : orders = [Sample.firstOrder, Sample.secondOrder] :=
    List.map_injective_iff.mpr OrderRow.ofOrder_injective
      (Option.some.inj (hholds.orders_eq.symm.trans hrows))
  have htrail : trail.last = 2 := by
    have heq : db.trail = some trail := hholds.trail_eq
    rwa [heq, Option.map_some, Option.some.injEq] at hlast
  subst horders
  constructor
  · have hmoved : (Sample.moveFirst.perform db).1 = .ok (.modified moved) := by decide +kernel
    have hdeleted : (Sample.deleteSecond.perform db).1 = .ok (.deleted ⟨.id, 1, 1, 2⟩) := by
      decide +kernel
    have hdeletedNext : (Sample.deleteSecond.perform (Sample.moveFirst.perform db).2).1 =
        .ok (.deleted ⟨.id, 1, 1, 2⟩) := by
      decide +kernel
    have hmovedNext : (Sample.moveFirst.perform (Sample.deleteSecond.perform db).2).1 =
        .ok (.modified moved) := by
      decide +kernel
    exact halike Sample.moveFirst Sample.deleteSecond _ _ trivial rfl (by decide +kernel)
      (bothWays_of_ok hmoved hdeletedNext hdeleted hmovedNext)
  · obtain ⟨hsums, _⟩ := hdelete [Sample.firstId.toText] [Sample.secondId.toText]
      [Sample.firstId.toText, Sample.secondId.toText] Sample.namesLive_first
      Sample.namesLive_second Sample.namesLive_both (by decide +kernel) (by decide +kernel)
    have hcard : (namedIds [Sample.firstId.toText, Sample.secondId.toText]).card = 2 := by
      decide +kernel
    have hroom : trail.last + (namedIds [Sample.firstId.toText, Sample.secondId.toText]).card ≤
        maxInteger := by
      rw [htrail, hcard]
      decide
    obtain ⟨first, second, whole, between, _, left, hparts⟩ := hsums hroom
    refine ⟨first, second, whole, between, left, fun clock => ?_⟩
    obtain ⟨hfirst, hsecond, _, _, hwhole, _, hrevisions⟩ := hparts clock
    exact ⟨hfirst, hsecond, hwhole, hrevisions⟩

/-! ## The last number -/

namespace Sample

/-- Two orders are live when all numbers are used up. -/
theorem keeps_both {n : Nat} (hn : n + 2 = maxInteger) :
    ∃ ledger,
      (Run.of (createFirst :: List.replicate n updateFirst ++ [createSecond])).Keeps ledger ∧
        ledger.orders = [firstOrder, secondOrder] ∧ ledger.trail.last = maxInteger := by
  obtain ⟨ledger, hkeeps, horders, hlast⟩ := keeps_updates (by omega : n + 1 ≤ maxInteger)
  have hfree : ¬ PairHeld ledger.orders (fieldsUnder firstCase "2026/2") := by
    rw [horders, PairHeld]
    decide
  have hunused : ∀ order ∈ ledger.orders, order.id ≠ secondId := by
    rw [horders]
    decide
  have hroom : ledger.trail.next ≤ maxInteger := by
    rw [Trail.next_eq, hlast]
    omega
  have hstep : ledger.Step createSecond (.created secondOrder) (ledger.create secondOrder noon) :=
    .create rfl (by decide) hfree hunused hroom
  refine ⟨ledger.create secondOrder noon, ?_, ?_, ?_⟩
  · rw [Run.of_append_singleton]
    exact hkeeps.step_of hstep
  · rw [Ledger.create, horders]
    rfl
  · rw [Ledger.last_create, hlast]
    omega

end Sample

/-- Where two orders are live and all numbers are used up, they cannot be deleted at once. -/
theorem deletion_of_both_can_fail :
    ¬ ∀ (calls : List Mutation) (orders : List Order) (one two all : List String) (clock : Clock),
      (Run.of calls).database.orders = some (orders.map OrderRow.ofOrder) →
      NamesLive one orders → NamesLive two orders → NamesLive all orders →
      Disjoint (namedIds one) (namedIds two) → namedIds all = namedIds one ∪ namedIds two →
      ∃ summary, (deleteOrders ⟨all, []⟩ clock (Run.of calls).database).1 = .ok summary := by
  intro hclaim
  obtain ⟨ledger, hkeeps, horders, hlast⟩ :=
    Sample.keeps_both (Nat.sub_add_cancel (by decide : 2 ≤ maxInteger))
  have hrows : ledger.database.orders =
      some ([Sample.firstOrder, Sample.secondOrder].map OrderRow.ofOrder) := by
    rw [Ledger.database, horders]
  obtain ⟨summary, hdeleted⟩ := hclaim _ _ _ _ _ Sample.clock (hkeeps.database_eq ▸ hrows)
    Sample.namesLive_first Sample.namesLive_second Sample.namesLive_both (by decide +kernel)
    (by decide +kernel)
  have hfull : maxInteger <
      ledger.trail.last + (namedIds [Sample.firstId.toText, Sample.secondId.toText]).card := by
    have hcard : (namedIds [Sample.firstId.toText, Sample.secondId.toText]).card = 2 := by
      decide +kernel
    omega
  obtain ⟨failure, hfailed, _⟩ :=
    hkeeps.kept.deleteOrders_named_exhausted (horders ▸ Sample.namesLive_both) hfull Sample.clock
  rw [hkeeps.database_eq, hfailed] at hdeleted
  cases hdeleted

end PaymentOrders.Store
