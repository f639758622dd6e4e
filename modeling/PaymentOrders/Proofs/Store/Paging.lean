import PaymentOrders.Proofs.Page
import PaymentOrders.Proofs.Store.Deletion
import PaymentOrders.Proofs.Text.Order
/-!
# Paging through orders

The live orders that a filter asks for stand in one list, strictly ascending, as long as no two of
them share a case id and an order reference. Every page is a part of that list, whatever order the
keys of the filter come in, and the pages one after the other are the list.
-/

namespace PaymentOrders

/-- Orders come by case id, and within a case id by the bytes of the order reference. -/
def Order.Precedes (a b : Order) : Prop :=
  a.caseId.number < b.caseId.number ∨
    a.caseId = b.caseId ∧ Text.bytes a.orderReference < Text.bytes b.orderReference

theorem Order.Precedes.trans {a b c : Order} (hab : a.Precedes b) (hbc : b.Precedes c) :
    a.Precedes c := by
  rcases hab with hab | ⟨hab, hrefs⟩ <;> rcases hbc with hbc | ⟨hbc, hrefs'⟩
  · exact .inl (Nat.lt_trans hab hbc)
  · exact .inl (hbc ▸ hab)
  · exact .inl (hab ▸ hbc)
  · exact .inr ⟨hab.trans hbc, List.lt_trans hrefs hrefs'⟩

theorem Order.Precedes.ne {a b : Order} (hab : a.Precedes b) : a ≠ b := by
  rintro rfl
  rcases hab with hab | ⟨_, hab⟩
  · exact Nat.lt_irrefl _ hab
  · exact List.lt_irrefl _ hab

namespace OrderFilter

/-- Two filters of one kind have the same keys, in whatever order and however often. -/
def SameKeys : OrderFilter → OrderFilter → Prop
  | ids keys, ids others => ∀ id, id ∈ keys ↔ id ∈ others
  | caseIds keys, caseIds others => ∀ caseId, caseId ∈ keys ↔ caseId ∈ others
  | _, _ => False

theorem wants_of_isEmpty {filter : OrderFilter} (hnone : filter.isEmpty = true) (order : Order) :
    filter.wants order = false := by
  cases filter with
  | ids keys =>
      have hkeys : keys = [] := by simpa [isEmpty, size] using hnone
      simp [wants, hkeys]
  | caseIds keys =>
      have hkeys : keys = [] := by simpa [isEmpty, size] using hnone
      simp [wants, hkeys]

private theorem any_congr {α : Type} {keys others : List α} (hsame : ∀ k, k ∈ keys ↔ k ∈ others)
    (p : α → Bool) : keys.any p = others.any p := by
  rw [Bool.eq_iff_iff, List.any_eq_true, List.any_eq_true]
  simp only [hsame]

private theorem length_eq_zero_congr {α : Type} {keys others : List α}
    (hsame : ∀ k, k ∈ keys ↔ k ∈ others) : (keys.length == 0) = (others.length == 0) := by
  rw [Bool.eq_iff_iff, beq_iff_eq, beq_iff_eq, List.length_eq_zero_iff, List.length_eq_zero_iff,
    List.eq_nil_iff_forall_not_mem, List.eq_nil_iff_forall_not_mem]
  simp only [hsame]

variable {filter other : OrderFilter}

theorem SameKeys.isEmpty_eq (hsame : filter.SameKeys other) : filter.isEmpty = other.isEmpty := by
  cases filter <;> cases other
  case ids.ids => exact length_eq_zero_congr hsame
  case caseIds.caseIds => exact length_eq_zero_congr hsame
  all_goals cases hsame

theorem SameKeys.isSelected_eq (hsame : filter.SameKeys other) :
    Store.OrderRow.isSelected filter = Store.OrderRow.isSelected other := by
  funext row
  cases filter <;> cases other
  case ids.ids => exact any_congr hsame _
  case caseIds.caseIds => exact any_congr hsame _
  all_goals cases hsame

end OrderFilter

namespace Store

theorem queryOrders_congr {filter other : OrderFilter} (hsame : filter.SameKeys other) :
    queryOrders filter = queryOrders other := by
  funext request
  simp only [queryOrders, selectedRows, hsame.isEmpty_eq, hsame.isSelected_eq]

namespace OrderRow

variable {a b c : OrderRow}

theorem le_iff :
    le a b = true ↔ a.caseId < b.caseId ∨ a.caseId = b.caseId ∧
      (Text.bytes a.orderReference < Text.bytes b.orderReference ∨
        a.orderReference = b.orderReference ∧ (a.id = none ∨
          ∃ x y, a.id = some x ∧ b.id = some y ∧ Text.le x.toList y.toList = true)) := by
  unfold le
  by_cases hcase : a.caseId = b.caseId
  · by_cases href : a.orderReference = b.orderReference
    · cases a.id <;> cases b.id <;> simp [hcase, href]
    · simp [hcase, href, Text.bytes_lt_iff]
  · simp [hcase]

theorem le_total (a b : OrderRow) : (le a b || le b a) = true := by
  unfold le
  by_cases hcase : a.caseId = b.caseId
  · by_cases href : a.orderReference = b.orderReference
    · cases a.id <;> cases b.id <;> simp [hcase, href, Text.le_total]
    · simp [hcase, href, Ne.symm href, Text.le_total]
  · simp only [if_neg hcase, if_neg (Ne.symm hcase), Bool.or_eq_true, decide_eq_true_eq]
    exact Int.lt_or_gt_of_ne hcase

theorem le_trans (hab : le a b = true) (hbc : le b c = true) : le a c = true := by
  rw [le_iff] at hab hbc ⊢
  rcases hab with hab | ⟨hcase, hab⟩
  · exact .inl (hbc.elim (Int.lt_trans hab) fun hbc => hbc.1 ▸ hab)
  rcases hbc with hbc | ⟨hcase', hbc⟩
  · exact .inl (hcase ▸ hbc)
  refine .inr ⟨hcase.trans hcase', ?_⟩
  rcases hab with hab | ⟨href, hab⟩
  · exact .inl (hbc.elim (List.lt_trans hab) fun hbc => hbc.1 ▸ hab)
  rcases hbc with hbc | ⟨href', hbc⟩
  · exact .inl (href ▸ hbc)
  refine .inr ⟨href.trans href', ?_⟩
  rcases hab with hnone | ⟨x, y, hx, hy, hab⟩
  · exact .inl hnone
  rcases hbc with hnone | ⟨y', z, hy', hz, hbc⟩
  · cases hy.symm.trans hnone
  · cases hy.symm.trans hy'
    exact .inr ⟨x, z, hx, hz, Text.le_trans hab hbc⟩

end OrderRow

namespace LiveRow

def told (filter : OrderFilter) (live : List LiveRow) : List LiveRow :=
  (wanted filter live).mergeSort fun a b => OrderRow.le a.row b.row

/-- The live orders that a filter asks for, in the order in which they are told. -/
def listed (filter : OrderFilter) (live : List LiveRow) : List Order :=
  (told filter live).map order

theorem inOrder_wanted (filter : OrderFilter) (live : List LiveRow) :
    inOrder ((wanted filter live).map row) = (told filter live).map row :=
  (List.map_mergeSort (f := row) fun _ _ _ _ => rfl).symm

theorem listed_perm (filter : OrderFilter) (live : List LiveRow) :
    (listed filter live).Perm ((live.map order).filter filter.wants) := by
  have hsorted : (told filter live).Perm (wanted filter live) := List.mergeSort_perm _ _
  rw [List.filter_map]
  exact hsorted.map order

/-- Rows that stand in order are told as they stand. -/
theorem listed_of_ascending {filter : OrderFilter} {live : List LiveRow}
    (hascending : (wanted filter live).Pairwise fun a b => OrderRow.le a.row b.row = true) :
    listed filter live = (wanted filter live).map order := by
  rw [listed, told, List.mergeSort_of_pairwise hascending]

theorem length_listed_le (filter : OrderFilter) (live : List LiveRow) :
    (listed filter live).length ≤ live.length := by
  calc (listed filter live).length
      = ((live.map order).filter filter.wants).length := (listed_perm filter live).length_eq
    _ ≤ (live.map order).length := List.length_filter_le _ _
    _ = live.length := List.length_map _

theorem listed_of_isEmpty {filter : OrderFilter} (hnone : filter.isEmpty = true)
    (live : List LiveRow) : listed filter live = [] := by
  have hunwanted : (live.map order).filter filter.wants = [] := by
    simp [List.filter_eq_nil_iff, OrderFilter.wants_of_isEmpty hnone]
  have hperm := listed_perm filter live
  rw [hunwanted] at hperm
  exact hperm.eq_nil

/-- Of two orders with different pairs the one whose row comes first precedes the other. -/
theorem precedes_of_le {one other : LiveRow} (hle : OrderRow.le one.row other.row = true)
    (hapart : ¬ (one.order.caseId = other.order.caseId ∧
      one.order.orderReference = other.order.orderReference)) :
    one.order.Precedes other.order := by
  obtain ⟨hcase, href⟩ := OrderRow.of_toOrder one.toOrder_eq
  obtain ⟨hcase', href'⟩ := OrderRow.of_toOrder other.toOrder_eq
  simp only [OrderRow.le, hcase, hcase', href, href', Int.natCast_inj, CaseId.number_inj,
    Int.ofNat_lt] at hle
  by_cases hsame : one.order.caseId = other.order.caseId
  · have hrefs : one.order.orderReference ≠ other.order.orderReference :=
      fun h => hapart ⟨hsame, h⟩
    rw [if_pos hsame, if_neg hrefs] at hle
    exact .inr ⟨hsame, Text.bytes_lt_of_le hle hrefs⟩
  · rw [if_neg hsame] at hle
    exact .inl (of_decide_eq_true hle)

theorem told_pairwise (filter : OrderFilter) (live : List LiveRow) :
    (told filter live).Pairwise fun a b => OrderRow.le a.row b.row = true :=
  @List.pairwise_mergeSort LiveRow (fun a b => OrderRow.le a.row b.row)
    (fun _ _ _ => OrderRow.le_trans) (fun a b => OrderRow.le_total a.row b.row) _

theorem listed_ascending (filter : OrderFilter) {live : List LiveRow}
    (hapart : (live.map order).Pairwise fun a b =>
      ¬ (a.caseId = b.caseId ∧ a.orderReference = b.orderReference)) :
    (listed filter live).Pairwise Order.Precedes := by
  have hwanted := (List.pairwise_map.mp hapart).sublist
    (List.filter_sublist (p := fun one => filter.wants one.order))
  have htold := (List.mergeSort_perm (wanted filter live)
    fun a b => OrderRow.le a.row b.row).pairwise_iff
      (fun h hsame => h ⟨hsame.1.symm, hsame.2.symm⟩) |>.mpr hwanted
  rw [listed, List.pairwise_map]
  exact (told_pairwise filter live).imp₂ (fun _ _ => precedes_of_le) htold

end LiveRow

section Query

variable {db : Database} {live : List LiveRow}

theorem selectedRows_eq_told (hrows : db.orders = some (live.map LiveRow.row))
    (filter : OrderFilter) :
    selectedRows filter db = .ok ((LiveRow.told filter live).map LiveRow.row) := by
  rw [selectedRows, Database.orderRows, hrows, Steps.bind_ok, LiveRow.filter_isSelected,
    LiveRow.inOrder_wanted]
  rfl

/-- A page is cut out of the orders that are told. -/
theorem queryOrders_apply (hrows : db.orders = some (live.map LiveRow.row)) (filter : OrderFilter)
    {request : PageRequest} {offset : Nat} (hoffset : request.checkedOffset = .ok offset) :
    queryOrders filter request db =
      (.ok (.ofTotal (((LiveRow.listed filter live).drop offset).take request.size.toNat) request
        (LiveRow.listed filter live).length.toUInt64), db) := by
  have hdemand := Session.demand_ok offset db
  rw [← hoffset] at hdemand
  rw [queryOrders, Steps.bind_of_ok hdemand]
  have hselected := selectedRows_eq_told hrows filter
  have htotal : Session.within .countingOrders (Session.read fun db => do
      return (← selectedRows filter db).length) db =
        (.ok (LiveRow.listed filter live).length, db) := by
    apply Session.mapFailure_of_ok
    rw [Session.read_apply, hselected, Steps.bind_ok, LiveRow.listed, List.length_map,
      List.length_map]
    rfl
  have hcontent : (Session.read fun db => do
      let rows ← selectedRows filter db
      ((rows.drop offset).take request.size.toNat).mapM OrderRow.toOrder) db =
        (.ok (((LiveRow.listed filter live).drop offset).take request.size.toNat), db) := by
    rw [Session.read_apply, hselected, Steps.bind_ok, ← List.map_drop, ← List.map_take,
      LiveRow.mapM_row, List.map_take, List.map_drop, LiveRow.listed]
  split
  next hnone =>
    rw [LiveRow.listed_of_isEmpty hnone, List.drop_nil, List.take_nil]
    rfl
  next => rw [Steps.bind_of_ok htotal, Steps.bind_of_ok hcontent, Steps.pure_apply]

end Query

/-! ## The pages one after the other -/

/-- The list that pages are cut out of: the live orders that a filter asks for, ascending. -/
structure Listing (filter : OrderFilter) (live : List LiveRow) (listed : List Order) : Prop where
  perm : listed.Perm ((live.map LiveRow.order).filter filter.wants)
  ascending : listed.Pairwise Order.Precedes
  nodup : listed.Nodup

structure PageOf (listed : List Order) (request : PageRequest) (page : Page Order) : Prop where
  content_eq : page.content =
    (listed.drop (request.page.toNat * request.size.toNat)).take request.size.toNat
  page_eq : page.page = request.page
  size_eq : page.size = request.size
  totalElements_eq : page.totalElements.toNat = listed.length
  totalPages_eq : page.totalPages.toNat = listed.length ⌈/⌉ request.size.toNat
  later : page.totalPages.toNat ≤ request.page.toNat → page.content = []

def pageContent (filter : OrderFilter) (size : UInt32) (db : Database) (page : Nat) :
    List Order :=
  match (queryOrders filter ⟨.ofNat page, size⟩ db).1 with
  | .ok page => page.content
  | .error _ => []

/-- The pages of some size are a list, one after the other, as far as words can number them. -/
structure PagesThrough (listed : List Order) (filter : OrderFilter) (db : Database)
    (size : UInt32) : Prop where
  first : ∀ count ≤ listed.length ⌈/⌉ size.toNat, count ≤ 2 ^ 32 →
    (List.range count).flatMap (pageContent filter size db) = listed.take (count * size.toNat)
  whole : listed.length ⌈/⌉ size.toNat ≤ 2 ^ 32 →
    (List.range (listed.length ⌈/⌉ size.toNat)).flatMap (pageContent filter size db) = listed

theorem listing_listed (filter : OrderFilter) {live : List LiveRow}
    (hapart : (live.map LiveRow.order).Pairwise fun a b =>
      ¬ (a.caseId = b.caseId ∧ a.orderReference = b.orderReference)) :
    Listing filter live (LiveRow.listed filter live) where
  perm := LiveRow.listed_perm filter live
  ascending := LiveRow.listed_ascending filter hapart
  nodup := (LiveRow.listed_ascending filter hapart).imp Order.Precedes.ne

theorem pageOf_ofTotal {listed : List Order} (hcounted : listed.length ≤ maxInteger)
    {request : PageRequest} (hsize : request.size ≠ 0) :
    PageOf listed request (.ofTotal
      ((listed.drop (request.page.toNat * request.size.toNat)).take request.size.toNat)
      request listed.length.toUInt64) := by
  have htotal : listed.length.toUInt64.toNat = listed.length := by
    apply UInt64.toNat_ofNat_of_lt'
    exact Nat.lt_of_le_of_lt hcounted (by decide)
  have hpages := Page.toNat_totalPages_ofTotal
    ((listed.drop (request.page.toNat * request.size.toNat)).take request.size.toNat) hsize
    listed.length.toUInt64
  rw [htotal] at hpages
  refine ⟨rfl, rfl, rfl, htotal, hpages, ?_⟩
  intro hlater
  rw [hpages, ceilDiv_le_iff_le_mul (toNat_pos_of_ne_zero hsize), Nat.mul_comm] at hlater
  change (listed.drop _).take _ = []
  rw [List.drop_eq_nil_of_le hlater, List.take_nil]

theorem flatMap_range_take_drop {α : Type} (xs : List α) (size count : Nat) :
    (List.range count).flatMap (fun page => (xs.drop (page * size)).take size) =
      xs.take (count * size) := by
  induction count with
  | zero => simp
  | succ count ih =>
      rw [List.range_succ, List.flatMap_append, ih, List.flatMap_singleton, Nat.succ_mul,
        List.take_add]

section Pages

variable {db : Database} {live : List LiveRow} {filter : OrderFilter} {size : UInt32}

/-- A page that is not beyond the last one begins where it can be counted. -/
theorem pageContent_of_lt (hrows : db.orders = some (live.map LiveRow.row))
    (hcounted : live.length ≤ maxInteger) (hsize : size ≠ 0) {page : Nat} (hword : page < 2 ^ 32)
    (hpage : page < (LiveRow.listed filter live).length ⌈/⌉ size.toNat) :
    pageContent filter size db page =
      ((LiveRow.listed filter live).drop (page * size.toNat)).take size.toNat := by
  have hstarts : page * size.toNat < (LiveRow.listed filter live).length := by
    rw [← Nat.not_le, ceilDiv_le_iff_le_mul (toNat_pos_of_ne_zero hsize), Nat.not_le,
      Nat.mul_comm] at hpage
    exact hpage
  have hfits : page * size.toNat ≤ PageRequest.maxOffset :=
    calc page * size.toNat
        ≤ (LiveRow.listed filter live).length := Nat.le_of_lt hstarts
      _ ≤ live.length := LiveRow.length_listed_le filter live
      _ ≤ PageRequest.maxOffset := hcounted
  have hnumber : (UInt32.ofNat page).toNat = page := UInt32.toNat_ofNat_of_lt' hword
  have hoffset : (⟨.ofNat page, size⟩ : PageRequest).checkedOffset =
      .ok (page * size.toNat) := by
    rw [← hnumber] at hfits
    rw [PageRequest.checkedOffset_of_le hfits, hnumber]
  rw [pageContent, queryOrders_apply hrows filter hoffset]
  rfl

theorem pagesThrough_listed (hrows : db.orders = some (live.map LiveRow.row))
    (hcounted : live.length ≤ maxInteger) (hsize : size ≠ 0) :
    PagesThrough (LiveRow.listed filter live) filter db size := by
  have hfirst : ∀ count ≤ (LiveRow.listed filter live).length ⌈/⌉ size.toNat, count ≤ 2 ^ 32 →
      (List.range count).flatMap (pageContent filter size db) =
        (LiveRow.listed filter live).take (count * size.toNat) := by
    intro count hcount hwords
    rw [← flatMap_range_take_drop]
    apply List.flatMap_congr
    intro page hpage
    have hlt := List.mem_range.mp hpage
    exact pageContent_of_lt hrows hcounted hsize (by omega) (by omega)
  refine ⟨hfirst, ?_⟩
  intro hwords
  rw [hfirst _ le_rfl hwords]
  apply List.take_of_length_le
  rw [Nat.mul_comm, ← ceilDiv_le_iff_le_mul (toNat_pos_of_ne_zero hsize)]

/-- Queries page through the live orders that a filter asks for: each page is its part of their
list, the pages one after the other are the list, and the keys of the filter count as a set. A
table counts its rows by integers of 64 bits. -/
theorem queries_page_through_orders (hrows : db.orders = some (live.map LiveRow.row))
    (hcounted : live.length ≤ maxInteger)
    (hapart : (live.map LiveRow.order).Pairwise fun a b =>
      ¬ (a.caseId = b.caseId ∧ a.orderReference = b.orderReference))
    (filter : OrderFilter) :
    ∃ listed, Listing filter live listed ∧
      (∀ request : PageRequest, request.size ≠ 0 →
        request.page.toNat * request.size.toNat ≤ PageRequest.maxOffset →
        ∃ page, queryOrders filter request db = (.ok page, db) ∧ PageOf listed request page) ∧
      (∀ other, filter.SameKeys other → ∀ request,
        queryOrders other request db = queryOrders filter request db) ∧
      ∀ size : UInt32, size ≠ 0 → PagesThrough listed filter db size := by
  refine ⟨LiveRow.listed filter live, listing_listed filter hapart, ?_, ?_, ?_⟩
  · intro request hsize hfits
    have hlength := (LiveRow.length_listed_le filter live).trans hcounted
    exact ⟨_, queryOrders_apply hrows filter (PageRequest.checkedOffset_of_le hfits),
      pageOf_ofTotal hlength hsize⟩
  · intro other hsame request
    rw [queryOrders_congr hsame]
  · intro size hsize
    exact pagesThrough_listed hrows hcounted hsize

end Pages

/-- The second page of one order, for keys that come unsorted and twice. -/
theorem queries_page_through_orders_moved :
    let filter := .caseIds [Sample.firstCase, Sample.secondCase, Sample.firstCase]
    ∃ listed, Listing filter Sample.movedLive listed ∧
      (List.range (listed.length ⌈/⌉ 1)).flatMap (pageContent filter 1 Sample.movedDatabase) =
        listed ∧
      PageOf listed ⟨1, 1⟩ ⟨[Sample.secondOrder], 1, 1, 2, 2⟩ := by
  intro filter
  have hapart : (Sample.movedLive.map LiveRow.order).Pairwise fun a b =>
      ¬ (a.caseId = b.caseId ∧ a.orderReference = b.orderReference) := by
    decide
  have hrows : Sample.movedDatabase.orders = some (Sample.movedLive.map LiveRow.row) := rfl
  obtain ⟨listed, hlisting, hpages, _, hthrough⟩ :=
    queries_page_through_orders hrows (by decide) hapart filter
  obtain ⟨page, hpage, hpageOf⟩ := hpages ⟨1, 1⟩ (by decide) (by decide)
  have hanswer : (queryOrders filter ⟨1, 1⟩ Sample.movedDatabase).1 =
      .ok ⟨[Sample.secondOrder], 1, 1, 2, 2⟩ := by
    rw [queryOrders_apply hrows filter (PageRequest.checkedOffset_of_le (by decide)),
      LiveRow.listed_of_ascending (by decide +kernel)]
    decide +kernel
  have hsecond : page = ⟨[Sample.secondOrder], 1, 1, 2, 2⟩ := by
    rw [hpage] at hanswer
    exact Except.ok.inj hanswer
  have htwo : listed.length = 2 := by
    rw [← hpageOf.totalElements_eq, hsecond]
    rfl
  refine ⟨listed, hlisting, (hthrough 1 (by decide)).whole ?_, hsecond ▸ hpageOf⟩
  rw [htwo]
  decide

end Store

end PaymentOrders
