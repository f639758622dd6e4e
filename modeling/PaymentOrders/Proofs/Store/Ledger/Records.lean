import Mathlib.Data.Finset.Card
import PaymentOrders.Proofs.OrderFilter.Resolve
import PaymentOrders.Proofs.Store.Recorded
/-!
# Records of a ledger

What a call makes of a record depends on what that record was, and of the records that it is not
about it makes nothing. So two calls about different records come to the same in either order, but
for the numbers of the revisions.
-/

namespace PaymentOrders.Store

def namedIds (texts : List String) : Finset OrderId :=
  (texts.filterMap fun text => (OrderId.parseField "ids" text).toOption).toFinset

theorem mem_namedIds {texts : List String} {id : OrderId} :
    id ∈ namedIds texts ↔ ∃ text ∈ texts, OrderId.parseField "ids" text = .ok id := by
  rw [namedIds, List.mem_toFinset, List.mem_filterMap]
  refine exists_congr fun text => and_congr_right fun _ => ?_
  cases OrderId.parseField "ids" text <;> simp [Except.toOption]

theorem card_namedIds (texts : List String) :
    (namedIds texts).card = OrderFilter.distinctKeys texts [] := by
  rw [namedIds, List.card_toFinset, OrderFilter.distinctKeys]
  simp

theorem named_iff_mem_namedIds {texts : List String} {order : Order} :
    OrderFilter.Named texts [] order ↔ order.id ∈ namedIds texts := by
  rw [mem_namedIds, OrderFilter.Named]
  simp

/-- What a revision tells, apart from its number. -/
def unnumbered (revision : Revision) : ChangeType × Timestamp × Option Order :=
  (revision.changeType, revision.timestamp, revision.snapshot)

/-- A live order, if there is one, and what its revisions tell. -/
structure Record where
  order : Option Order
  story : List (ChangeType × Timestamp × Option Order)

def Ledger.recordOf (ledger : Ledger) (id : OrderId) : Record where
  order := ledger.orders.find? fun order => order.id = id
  story := (ledger.history id).map unnumbered

namespace Mutation

/-- The ids of the records that a call names. -/
def ids : Mutation → Finset OrderId
  | create _ _ fresh _ => {fresh}
  | update id _ _ => {id}
  | delete request _ => namedIds request.ids

@[simp] theorem mem_ids_create {fields : OrderFields} {createdBy : String} {fresh id : OrderId}
    {clock : Clock} : id ∈ (create fields createdBy fresh clock).ids ↔ id = fresh :=
  Finset.mem_singleton

@[simp] theorem mem_ids_update {fields : OrderFields} {id other : OrderId} {clock : Clock} :
    other ∈ (update id fields clock).ids ↔ other = id :=
  Finset.mem_singleton

/-- A deletion that names its orders by their own ids, or another call. -/
def ById : Mutation → Prop
  | create .. | update .. => True
  | delete request _ => request.caseIds = []

/-- What a call that succeeds makes of a record that it names. -/
def effect : Mutation → Record → Record
  | create fields createdBy fresh clock, _ =>
      let order := Order.create fresh fields (clock 0) createdBy
      ⟨some order, [(.created, clock 1, some order)]⟩
  | update _ fields clock, record =>
      let order? := record.order.map fun order => order.apply fields
      ⟨order?, record.story ++ [(.modified, clock 0, order?)]⟩
  | delete .., _ => ⟨none, []⟩

end Mutation

namespace Ledger

section Records

variable {ledger after : Ledger} {order : Order} {time : Timestamp}

theorem find?_append_self {orders : List Order} (hunused : ∀ other ∈ orders, other.id ≠ order.id) :
    (orders ++ [order]).find? (fun other => other.id = order.id) = some order := by
  have hnone : orders.find? (fun other => other.id = order.id) = none :=
    List.find?_eq_none.mpr fun other hother => by simpa using hunused other hother
  rw [List.find?_append, hnone, Option.none_or]
  simp

theorem recordOf_of_appended {entry : LedgerEntry} {id : OrderId}
    (hentries : after.entries = ledger.entries ++ [entry]) (hne : id ≠ entry.order.id)
    (horder : after.orders.find? (fun other => other.id = id) =
      ledger.orders.find? fun other => other.id = id) :
    after.recordOf id = ledger.recordOf id := by
  rw [recordOf, recordOf, horder, history_append_of_ne hentries hne.symm]

theorem WellKept.recordOf_create (hkept : ledger.WellKept)
    (hunused : ∀ other ∈ ledger.orders, other.id ≠ order.id) (time : Timestamp) :
    (ledger.create order time).recordOf order.id =
      ⟨some order, [(.created, time, some order)]⟩ := by
  have hentries : (ledger.create order time).entries =
      ledger.entries ++ [⟨ledger.trail.next, .created, time, order⟩] := rfl
  have hstory := history_append_self hentries
  rw [hkept.history_of_unused hunused] at hstory
  rw [recordOf, hstory]
  exact congrArg (Record.mk · _) (find?_append_self hunused)

theorem recordOf_modify (hafter : (ledger.modify order time).WellKept) {old : Order}
    (hold : old ∈ ledger.orders) (hid : old.id = order.id) :
    (ledger.modify order time).recordOf order.id =
      ⟨some order, (ledger.recordOf order.id).story ++ [(.modified, time, some order)]⟩ := by
  have hentries : (ledger.modify order time).entries =
      ledger.entries ++ [⟨ledger.trail.next, .modified, time, order⟩] := rfl
  rw [recordOf, history_append_self hentries, List.map_append,
    hafter.find?_of_mem ((mem_modify hold hid time).mpr (.inl rfl))]
  rfl

section Remove

variable {filter : OrderFilter} {ids : Finset OrderId}
  (hwants : ∀ order ∈ ledger.orders, filter.wants order = true ↔ order.id ∈ ids)

include hwants

theorem orders_remove :
    (ledger.remove filter).orders = ledger.orders.filter fun order => order.id ∉ ids := by
  apply List.filter_congr
  intro order horder
  rw [Bool.eq_iff_iff, Bool.not_eq_true', ← Bool.not_eq_true, hwants order horder]
  simp

/-- No entry is without its order, so the entries of the removed orders are told by their ids. -/
theorem WellKept.entries_remove (hkept : ledger.WellKept) :
    (ledger.remove filter).entries = ledger.entries.filter fun entry => entry.order.id ∉ ids := by
  apply List.filter_congr
  intro entry hentry
  obtain ⟨owner, howner, hid⟩ := hkept.owned entry hentry
  rw [Bool.eq_iff_iff, Bool.not_eq_true', ← Bool.not_eq_true, ← hid, hkept.removes_iff howner,
    hwants owner howner]
  simp

theorem find?_remove (id : OrderId) :
    (ledger.remove filter).orders.find? (fun order => order.id = id) =
      if id ∈ ids then none else ledger.orders.find? fun order => order.id = id := by
  rw [orders_remove hwants, List.find?_filter]
  split
  next hid =>
    rw [List.find?_eq_none]
    intro order _ hfound
    have hboth : order.id ∉ ids ∧ order.id = id := by simpa using hfound
    exact hboth.1 (hboth.2 ▸ hid)
  next hid =>
    congr 1
    funext order
    by_cases hsame : order.id = id
    · simp [hsame, hid]
    · simp [hsame]

theorem WellKept.history_remove (hkept : ledger.WellKept) (id : OrderId) :
    (ledger.remove filter).history id = if id ∈ ids then [] else ledger.history id := by
  rw [history, hkept.entries_remove hwants, List.filter_filter]
  split
  next hid =>
    rw [List.map_eq_nil_iff, List.filter_eq_nil_iff]
    intro entry _ hfound
    have hboth : entry.order.id = id ∧ entry.order.id ∉ ids := by simpa using hfound
    exact hboth.2 (hboth.1 ▸ hid)
  next hid =>
    rw [history]
    apply congrArg
    apply List.filter_congr
    intro entry _
    by_cases hsame : entry.order.id = id
    · simp [hsame, hid]
    · simp [hsame]

/-- A removal takes whole records. -/
theorem WellKept.recordOf_remove (hkept : ledger.WellKept) (id : OrderId) :
    (ledger.remove filter).recordOf id = if id ∈ ids then ⟨none, []⟩ else ledger.recordOf id := by
  rw [recordOf, find?_remove hwants, hkept.history_remove hwants]
  split <;> rfl

/-- If every id is that of a live order, as many orders are removed as there are ids. -/
theorem WellKept.length_filter_wants (hkept : ledger.WellKept)
    (hlive : ∀ id ∈ ids, ∃ order ∈ ledger.orders, order.id = id) :
    (ledger.orders.filter filter.wants).length = ids.card := by
  have hnodup : ((ledger.orders.filter filter.wants).map Order.id).Nodup :=
    hkept.ids.sublist (List.filter_sublist.map Order.id)
  have hsame : ((ledger.orders.filter filter.wants).map Order.id).toFinset = ids := by
    ext id
    rw [List.mem_toFinset, List.mem_map]
    constructor
    · rintro ⟨order, horder, rfl⟩
      obtain ⟨hmem, hwanted⟩ := List.mem_filter.mp horder
      exact (hwants order hmem).mp hwanted
    · intro hid
      obtain ⟨order, horder, rfl⟩ := hlive id hid
      exact ⟨order, List.mem_filter.mpr ⟨horder, (hwants order horder).mpr hid⟩, rfl⟩
  have hcard := List.toFinset_card_of_nodup hnodup
  rw [hsame, List.length_map] at hcard
  exact hcard.symm

end Remove

end Records

/-! ## Steps -/

section Steps

variable {ledger after : Ledger} {call : Mutation} {answer : Answer}

section ById

variable {request : DeleteRequest} {filter : OrderFilter} (hbyId : request.caseIds = [])
  (hresolve : OrderFilter.resolve request.ids request.caseIds = .ok filter)

include hbyId hresolve

theorem wants_of_byId (order : Order) :
    filter.wants order = true ↔ order.id ∈ namedIds request.ids := by
  rw [OrderFilter.wants_of_resolve hresolve, hbyId, named_iff_mem_namedIds]

theorem live_of_byId (hanswered : filter.Answered ledger.orders) :
    ∀ id ∈ namedIds request.ids, ∃ order ∈ ledger.orders, order.id = id := by
  rw [hbyId] at hresolve
  have hsome : request.ids ≠ [] := by
    intro hnil
    rw [hnil] at hresolve
    cases hresolve
  obtain ⟨keys, rfl, _, hkeys⟩ := (OrderFilter.resolved_ids hsome).keys filter hresolve
  intro id hid
  exact hanswered id ((hkeys id).mpr (mem_namedIds.mp hid))

end ById

/-- A step makes of each record that it names what the record alone decides, and leaves all other
records alone. -/
theorem Step.recordOf_eq (hstep : ledger.Step call answer after) (hkept : ledger.WellKept)
    (hbyId : call.ById) (id : OrderId) :
    after.recordOf id =
      if id ∈ call.ids then call.effect (ledger.recordOf id) else ledger.recordOf id := by
  have hafter := hstep.wellKept hkept
  cases hstep with
  | @create fields createdBy fresh clock hvalid hname hfree hunused hroom =>
      by_cases hid : id = fresh
      · subst hid
        rw [if_pos (Mutation.mem_ids_create.mpr rfl)]
        exact hkept.recordOf_create hunused (clock 1)
      · rw [if_neg (mt Mutation.mem_ids_create.mp hid)]
        exact recordOf_of_appended rfl hid (find?_append_of_ne hid _)
  | @update order fields clock hvalid hlive hfree hroom =>
      by_cases hid : id = order.id
      · subst hid
        have hfound : (ledger.recordOf order.id).order = some order := hkept.find?_of_mem hlive
        rw [if_pos (Mutation.mem_ids_update.mpr rfl), Mutation.effect, hfound]
        exact recordOf_modify hafter hlive rfl
      · have hne : id ≠ (order.apply fields).id := hid
        rw [if_neg (mt Mutation.mem_ids_update.mp hid)]
        exact recordOf_of_appended rfl hne (find?_replace_of_ne hne _)
  | delete hresolve hanswered hroom =>
      exact hkept.recordOf_remove (fun order _ => wants_of_byId hbyId hresolve order) id

/-- A step uses up a number for each record that it names. -/
theorem Step.last_eq_add_card (hstep : ledger.Step call answer after) (hkept : ledger.WellKept)
    (hbyId : call.ById) : after.trail.last = ledger.trail.last + call.ids.card := by
  cases hstep with
  | create => exact last_create _ _ _
  | update => exact last_modify _ _ _
  | delete hresolve hanswered hroom =>
      have hwants := fun order (_ : order ∈ ledger.orders) => wants_of_byId hbyId hresolve order
      rw [last_remove,
        hkept.length_filter_wants hwants (live_of_byId hbyId hresolve hanswered)]
      rfl

theorem WellKept.mem_iff_find? (hkept : ledger.WellKept) {order : Order} :
    order ∈ ledger.orders ↔
      ledger.orders.find? (fun other => other.id = order.id) = some order :=
  ⟨hkept.find?_of_mem, List.mem_of_find?_eq_some⟩

theorem WellKept.nodup (hkept : ledger.WellKept) : ledger.orders.Nodup :=
  hkept.ids.of_map

/-- Ledgers with the same records hold the same orders. -/
theorem WellKept.perm_of_recordOf (hkept : ledger.WellKept) (hafter : after.WellKept)
    (h : ∀ id, ledger.recordOf id = after.recordOf id) : ledger.orders.Perm after.orders := by
  rw [List.perm_ext_iff_of_nodup hkept.nodup hafter.nodup]
  intro order
  have hfound := congrArg Record.order (h order.id)
  rw [hkept.mem_iff_find?, hafter.mem_iff_find?]
  exact Eq.congr_left hfound

end Steps

/-! ## Two steps in either order -/

section Commute

variable {start one both other both' : Ledger} {a b : Mutation}
  {first second first' second' : Answer}
  (hkept : start.WellKept) (hdisjoint : Disjoint a.ids b.ids) (ha : a.ById) (hb : b.ById)
  (hone : start.Step a first one) (hboth : one.Step b second both)
  (hother : start.Step b first' other) (hboth' : other.Step a second' both')

include hkept hdisjoint ha hb hone hboth hother hboth'

theorem recordOf_comm (id : OrderId) : both.recordOf id = both'.recordOf id := by
  rw [hboth.recordOf_eq (hone.wellKept hkept) hb, hone.recordOf_eq hkept ha,
    hboth'.recordOf_eq (hother.wellKept hkept) ha, hother.recordOf_eq hkept hb]
  by_cases hid : id ∈ a.ids
  · have hnot : id ∉ b.ids := Finset.disjoint_left.mp hdisjoint hid
    rw [if_pos hid, if_neg hnot, if_neg hnot, if_pos hid]
  · rw [if_neg hid, if_neg hid]

omit hdisjoint in
theorem last_comm : both.trail.last = both'.trail.last := by
  rw [hboth.last_eq_add_card (hone.wellKept hkept) hb, hone.last_eq_add_card hkept ha,
    hboth'.last_eq_add_card (hother.wellKept hkept) ha, hother.last_eq_add_card hkept hb]
  omega

end Commute

end Ledger

end PaymentOrders.Store
