import PaymentOrders.Proofs.Store.Deletion
import PaymentOrders.Store.Schema
/-!
# Ledgers

A ledger is what the tables hold as long as only calls write to them: orders, and one entry for
each change, with the order as the change left it. A call that succeeds is one of three steps. A
ledger is well kept if ids and pairs are different, numbers ascend and no entry outlives its
order.
-/

namespace PaymentOrders.Store

/-- One change of one order. -/
structure LedgerEntry where
  number : Nat
  change : ChangeType
  time : Timestamp
  order : Order

namespace LedgerEntry

def toRow (entry : LedgerEntry) : RevisionRow :=
  .ofSnapshot entry.number entry.change entry.time entry.order

def toRevision (entry : LedgerEntry) : Revision where
  number := entry.number
  recordId := entry.order.id
  changeType := entry.change
  timestamp := entry.time
  snapshot := some entry.order

@[simp] theorem recordId_toRow (entry : LedgerEntry) :
    entry.toRow.recordId = entry.order.id.toText := rfl

@[simp] theorem toRevision_toRow (entry : LedgerEntry) :
    entry.toRow.toRevision = .ok entry.toRevision :=
  RevisionRow.toRevision_ofSnapshot ..

@[simp] theorem belongsTo_toRow (id : OrderId) (entry : LedgerEntry) :
    entry.toRow.belongsTo id = decide (entry.order.id = id) :=
  RevisionRow.belongsTo_ofSnapshot ..

end LedgerEntry

/-- Live orders, the changes that they went through and the largest number ever used. -/
structure Ledger where
  orders : List Order
  entries : List LedgerEntry
  counter : Option Nat

/-- Some order has the case id and the order reference of some fields. -/
def PairHeld (orders : List Order) (fields : OrderFields) : Prop :=
  ∃ order ∈ orders, order.caseId = fields.caseId ∧ order.orderReference = fields.orderReference

instance (orders : List Order) (fields : OrderFields) : Decidable (PairHeld orders fields) :=
  inferInstanceAs (Decidable (∃ order ∈ orders, _))

theorem held_map_ofOrder {orders : List Order} {fields : OrderFields} :
    Held (orders.map .ofOrder) fields.caseId fields.orderReference ↔ PairHeld orders fields := by
  simp [Held, PairHeld, OrderRow.ofOrder]

namespace Ledger

def empty : Ledger := ⟨[], [], none⟩

def trail (ledger : Ledger) : Trail :=
  ⟨ledger.entries.map LedgerEntry.toRow, ledger.counter⟩

/-- The rows of the orders beside the orders. -/
def live (ledger : Ledger) : List LiveRow :=
  ledger.orders.map LiveRow.ofOrder

def database (ledger : Ledger) : Database where
  versions := some [1]
  orders := some (ledger.orders.map OrderRow.ofOrder)
  trail := some ledger.trail
  ordersNewer := false

theorem snd_migrate_empty : (migrate Database.empty).2 = empty.database := rfl

@[simp] theorem map_row_live (ledger : Ledger) :
    ledger.live.map LiveRow.row = ledger.orders.map OrderRow.ofOrder := by
  rw [live, List.map_map]
  rfl

@[simp] theorem map_order_live (ledger : Ledger) :
    ledger.live.map LiveRow.order = ledger.orders := by
  rw [live, List.map_map]
  exact List.map_id _

theorem wanted_live (filter : OrderFilter) (ledger : Ledger) :
    LiveRow.wanted filter ledger.live =
      (ledger.orders.filter filter.wants).map LiveRow.ofOrder := by
  rw [LiveRow.wanted, live, List.filter_map]
  rfl

theorem spared_live (filter : OrderFilter) (ledger : Ledger) :
    LiveRow.spared filter ledger.live =
      (ledger.orders.filter fun order => !filter.wants order).map LiveRow.ofOrder := by
  rw [LiveRow.spared, live, List.filter_map]
  rfl

/-! ## Steps -/

def create (ledger : Ledger) (order : Order) (time : Timestamp) : Ledger where
  orders := ledger.orders ++ [order]
  entries := ledger.entries ++ [⟨ledger.trail.next, .created, time, order⟩]
  counter := some ledger.trail.next

/-- The ledger with another state of an order. -/
def modify (ledger : Ledger) (order : Order) (time : Timestamp) : Ledger where
  orders := ledger.orders.map fun old => if old.id = order.id then order else old
  entries := ledger.entries ++ [⟨ledger.trail.next, .modified, time, order⟩]
  counter := some ledger.trail.next

def removes (ledger : Ledger) (filter : OrderFilter) (id : OrderId) : Bool :=
  ledger.orders.any fun order => order.id = id && filter.wants order

/-- The ledger without some orders and their entries. Each removal uses up a number. -/
def remove (ledger : Ledger) (filter : OrderFilter) : Ledger where
  orders := ledger.orders.filter fun order => !filter.wants order
  entries := ledger.entries.filter fun entry => !ledger.removes filter entry.order.id
  counter := some (ledger.trail.last + (ledger.orders.filter filter.wants).length)

/-- What a ledger is like that only calls wrote to. -/
structure WellKept (ledger : Ledger) : Prop where
  ids : (ledger.orders.map Order.id).Nodup
  pairs : ledger.orders.Pairwise fun a b =>
    ¬ (a.caseId = b.caseId ∧ a.orderReference = b.orderReference)
  ascending : ledger.entries.Pairwise fun a b => a.number < b.number
  room : ledger.trail.last ≤ maxInteger
  owned : ∀ entry ∈ ledger.entries, ∃ order ∈ ledger.orders, order.id = entry.order.id

/-- The steps that the calls make, each with what it takes and what it answers. -/
inductive Step (ledger : Ledger) : Mutation → Answer → Ledger → Prop
  | create {fields : OrderFields} {createdBy : String} {fresh : OrderId} {clock : Clock}
      (hvalid : fields.validate = .ok ()) (hname : Text.isBlank createdBy = false)
      (hfree : ¬ PairHeld ledger.orders fields)
      (hunused : ∀ order ∈ ledger.orders, order.id ≠ fresh)
      (hroom : ledger.trail.next ≤ maxInteger) :
      Step ledger (.create fields createdBy fresh clock)
        (.created (Order.create fresh fields (clock 0) createdBy))
        (ledger.create (Order.create fresh fields (clock 0) createdBy) (clock 1))
  | update {order : Order} {fields : OrderFields} {clock : Clock}
      (hvalid : fields.validate = .ok ()) (hlive : order ∈ ledger.orders)
      (hfree : ¬ PairHeld (ledger.orders.filter fun other => other.id ≠ order.id) fields)
      (hroom : ledger.trail.next ≤ maxInteger) :
      Step ledger (.update order.id fields clock) (.modified (order.apply fields))
        (ledger.modify (order.apply fields) (clock 0))
  | delete {request : DeleteRequest} {filter : OrderFilter} {clock : Clock}
      (hresolve : OrderFilter.resolve request.ids request.caseIds = .ok filter)
      (hanswered : filter.Answered ledger.orders)
      (hroom : ledger.trail.last + (ledger.orders.filter filter.wants).length ≤ maxInteger) :
      Step ledger (.delete request clock) (.deleted (.ofLive filter ledger.live ledger.trail))
        (ledger.remove filter)

/-! ## Numbers of a ledger -/

theorem number_le_last {ledger : Ledger} {entry : LedgerEntry} (hentry : entry ∈ ledger.entries) :
    entry.number ≤ ledger.trail.last := by
  have hrow : entry.toRow ∈ ledger.trail.rows := List.mem_map_of_mem hentry
  exact Int.ofNat_le.mp (Trail.number_le_last hrow)

theorem last_of_counter {orders : List Order} {entries : List LedgerEntry} {n : Nat}
    (hentries : ∀ entry ∈ entries, entry.number ≤ n) :
    (Ledger.mk orders entries (some n)).trail.last = n := by
  apply Trail.last_of_counter
  intro row hrow
  obtain ⟨entry, hentry, rfl⟩ := List.mem_map.mp hrow
  exact Int.ofNat_le.mpr (hentries entry hentry)

theorem le_next_of_mem_append {ledger : Ledger} {entry : LedgerEntry}
    (hnumber : entry.number = ledger.trail.next) :
    ∀ other ∈ ledger.entries ++ [entry], other.number ≤ ledger.trail.next := by
  intro other hother
  rcases List.mem_append.mp hother with hother | hother
  · exact Nat.le_succ_of_le (number_le_last hother)
  · rw [List.mem_singleton.mp hother, hnumber]

theorem last_create (ledger : Ledger) (order : Order) (time : Timestamp) :
    (ledger.create order time).trail.last = ledger.trail.last + 1 :=
  last_of_counter (le_next_of_mem_append rfl)

theorem last_modify (ledger : Ledger) (order : Order) (time : Timestamp) :
    (ledger.modify order time).trail.last = ledger.trail.last + 1 :=
  last_of_counter (le_next_of_mem_append rfl)

theorem last_remove (ledger : Ledger) (filter : OrderFilter) :
    (ledger.remove filter).trail.last =
      ledger.trail.last + (ledger.orders.filter filter.wants).length :=
  last_of_counter fun _ hentry =>
    Nat.le_add_right_of_le (number_le_last (List.mem_of_mem_filter hentry))

/-! ## Rows of a ledger -/

theorem find?_map_ofOrder (orders : List Order) (id : OrderId) :
    (orders.map OrderRow.ofOrder).find? (OrderRow.hasId id) =
      (orders.find? fun order => order.id = id).map OrderRow.ofOrder := by
  have hsame : OrderRow.hasId id ∘ OrderRow.ofOrder = fun order => decide (order.id = id) :=
    funext fun order => OrderRow.hasId_ofOrder id order
  rw [List.find?_map, hsame]

theorem othersThan_map_ofOrder (orders : List Order) (id : OrderId) :
    othersThan id (orders.map OrderRow.ofOrder) =
      (orders.filter fun other => other.id ≠ id).map OrderRow.ofOrder := by
  have hsame : (fun row : OrderRow => row.id != some id.toText) ∘ OrderRow.ofOrder =
      fun order => decide (order.id ≠ id) := by
    funext order
    rw [Bool.eq_iff_iff]
    simp [OrderRow.ofOrder]
  rw [othersThan, List.filter_map, hsame]

theorem rowsWith_map_ofOrder (orders : List Order) (order : Order) :
    rowsWith order.id (.ofOrder order) (orders.map OrderRow.ofOrder) =
      (orders.map fun old => if old.id = order.id then order else old).map OrderRow.ofOrder := by
  rw [rowsWith, List.map_map, List.map_map]
  apply List.map_congr_left
  intro old _
  by_cases hsame : old.id = order.id
  · simp [hsame, OrderRow.ofOrder]
  · simp [hsame, OrderRow.ofOrder]

theorem holds (ledger : Ledger) :
    ledger.database.Holds (ledger.orders.map OrderRow.ofOrder) ledger.trail :=
  ⟨rfl, rfl⟩

theorem holds_live (ledger : Ledger) :
    ledger.database.Holds (ledger.live.map LiveRow.row) ledger.trail := by
  rw [map_row_live]
  exact ledger.holds

theorem hasRoom_wanted {ledger : Ledger} {filter : OrderFilter}
    (hroom : ledger.trail.last + (ledger.orders.filter filter.wants).length ≤ maxInteger) :
    ledger.trail.HasRoom (LiveRow.wanted filter ledger.live).length := by
  rw [wanted_live, List.length_map]
  exact hroom

namespace WellKept

variable {ledger : Ledger} {filter : OrderFilter}

theorem idsNodup_live (hkept : ledger.WellKept) : LiveRow.IdsNodup ledger.live := by
  rw [LiveRow.IdsNodup, live, List.map_map]
  exact hkept.ids

theorem eq_of_id (hkept : ledger.WellKept) {order other : Order} (horder : order ∈ ledger.orders)
    (hother : other ∈ ledger.orders) (hsame : order.id = other.id) : order = other :=
  List.inj_on_of_nodup_map hkept.ids horder hother hsame

theorem find?_of_mem (hkept : ledger.WellKept) {order : Order} (horder : order ∈ ledger.orders) :
    ledger.orders.find? (fun other => other.id = order.id) = some order := by
  cases hfound : ledger.orders.find? (fun other => other.id = order.id) with
  | none =>
      have hnone := List.find?_eq_none.mp hfound order horder
      simp at hnone
  | some other =>
      have hid : other.id = order.id := by simpa using List.find?_some hfound
      rw [hkept.eq_of_id (List.mem_of_find?_eq_some hfound) horder hid]

theorem find?_row (hkept : ledger.WellKept) {order : Order} (horder : order ∈ ledger.orders) :
    (ledger.orders.map OrderRow.ofOrder).find? (OrderRow.hasId order.id) =
      some (.ofOrder order) := by
  rw [find?_map_ofOrder, hkept.find?_of_mem horder, Option.map_some]

theorem removes_iff (hkept : ledger.WellKept) {order : Order} (horder : order ∈ ledger.orders) :
    ledger.removes filter order.id = filter.wants order := by
  rw [Bool.eq_iff_iff]
  simp only [removes, List.any_eq_true, Bool.and_eq_true, decide_eq_true_eq]
  constructor
  · rintro ⟨other, hother, hsame, hwants⟩
    rwa [hkept.eq_of_id hother horder hsame] at hwants
  · intro hwants
    exact ⟨order, horder, rfl, hwants⟩

/-- Since no entry is without its order, a deletion takes the entries of the removed orders. -/
theorem taken_toRow (hkept : ledger.WellKept) {entry : LedgerEntry}
    (hentry : entry ∈ ledger.entries) :
    decide (Taken filter ledger.live ledger.trail entry.toRow) =
      ledger.removes filter entry.order.id := by
  obtain ⟨order, horder, hid⟩ := hkept.owned entry hentry
  have hone : LiveRow.ofOrder order ∈ ledger.live := List.mem_map_of_mem horder
  have hrow : entry.toRow.recordId = order.id.toText := by
    rw [LedgerEntry.recordId_toRow, hid]
  rw [← hid, hkept.removes_iff horder]
  cases hwants : filter.wants order with
  | true => exact decide_eq_true (taken_of_wanted hkept.idsNodup_live hone hwants hrow)
  | false => exact decide_eq_false (not_taken_of_spared hone hwants hrow)

theorem trail_without (hkept : ledger.WellKept) :
    ledger.trail.without filter ledger.live = (ledger.remove filter).trail := by
  have hentries : ledger.trail.rows.filter
      (fun row => !decide (Taken filter ledger.live ledger.trail row)) =
        (ledger.remove filter).trail.rows := by
    change (ledger.entries.map LedgerEntry.toRow).filter _ =
      (ledger.entries.filter _).map LedgerEntry.toRow
    rw [List.filter_map]
    apply congrArg
    apply List.filter_congr
    intro entry hentry
    rw [Function.comp_apply, hkept.taken_toRow hentry]
  have hcounter : (LiveRow.wanted filter ledger.live).length =
      (ledger.orders.filter filter.wants).length := by
    rw [wanted_live, List.length_map]
  rw [Trail.without, hentries, hcounter]
  rfl

end WellKept

end Ledger

end PaymentOrders.Store
