import PaymentOrders.OrderFilter
import PaymentOrders.Order
import PaymentOrders.Proofs.CaseId
import PaymentOrders.Proofs.OrderId
import PaymentOrders.Proofs.Sorted
/-!
# What filters ask for

A resolved filter has the keys that the texts of a request stand for, each once, and at least
one. Which orders it asks for and whether all its keys are those of an order depends on the
orders alone, not on how they are stored.
-/

namespace PaymentOrders

theorem OrderId.value_injective : Function.Injective OrderId.value := by
  intro a b h
  cases a
  cases b
  simp_all

theorem CaseId.number_injective : Function.Injective CaseId.number :=
  fun _ _ h => CaseId.ext_number h

namespace OrderFilter

def wants (filter : OrderFilter) (order : Order) : Bool :=
  match filter with
  | ids keys => decide (order.id ∈ keys)
  | caseIds keys => decide (order.caseId ∈ keys)

/-- Every key is that of some order. -/
def Answered (filter : OrderFilter) (orders : List Order) : Prop :=
  match filter with
  | ids keys => ∀ id ∈ keys, ∃ order ∈ orders, order.id = id
  | caseIds keys => ∀ caseId ∈ keys, ∃ order ∈ orders, order.caseId = caseId

theorem Answered.of_mem_iff {filter : OrderFilter} {orders others : List Order}
    (hsame : ∀ order, order ∈ orders ↔ order ∈ others) :
    filter.Answered orders ↔ filter.Answered others := by
  cases filter <;> simp only [Answered, hsame]

private theorem exists_wanted {α : Type} [DecidableEq α] {key : Order → α} {keys : List α}
    {orders : List Order} {k : α} (hk : k ∈ keys) :
    (∃ order ∈ orders.filter fun order => decide (key order ∈ keys), key order = k) ↔
      ∃ order ∈ orders, key order = k := by
  simp only [List.mem_filter, decide_eq_true_eq]
  constructor
  · rintro ⟨order, ⟨hmem, _⟩, hkey⟩
    exact ⟨order, hmem, hkey⟩
  · rintro ⟨order, hmem, hkey⟩
    exact ⟨order, ⟨hmem, hkey ▸ hk⟩, hkey⟩

/-- Only the orders that a filter asks for answer its keys. -/
theorem answered_filter_wants (filter : OrderFilter) (orders : List Order) :
    filter.Answered (orders.filter filter.wants) ↔ filter.Answered orders := by
  cases filter with
  | ids keys => exact forall₂_congr fun id hid => exists_wanted hid
  | caseIds keys => exact forall₂_congr fun caseId hcase => exists_wanted hcase

theorem filter_wants_ne_nil {filter : OrderFilter} {orders : List Order}
    (hkeys : filter.isEmpty = false) (h : filter.Answered orders) :
    orders.filter filter.wants ≠ [] := by
  rw [← answered_filter_wants] at h
  intro hnil
  rw [hnil] at h
  cases filter with
  | ids keys =>
      cases keys with
      | nil => cases hkeys
      | cons id keys =>
          obtain ⟨order, hmem, _⟩ := h id (List.mem_cons_self ..)
          cases hmem
  | caseIds keys =>
      cases keys with
      | nil => cases hkeys
      | cons caseId keys =>
          obtain ⟨order, hmem, _⟩ := h caseId (List.mem_cons_self ..)
          cases hmem

/-! ## Resolving -/

/-- The number of different keys that the texts of a request stand for. -/
def distinctKeys (ids caseIds : List String) : Nat :=
  (ids.filterMap fun text => (OrderId.parseField "ids" text).toOption).dedup.length +
    (caseIds.filterMap fun text => (CaseId.parseField "case_ids" text).toOption).dedup.length

/-- Some text of a request is the key of an order. -/
def Named (ids caseIds : List String) (order : Order) : Prop :=
  (∃ text ∈ ids, OrderId.parseField "ids" text = .ok order.id) ∨
    ∃ text ∈ caseIds, CaseId.parseField "case_ids" text = .ok order.caseId

theorem eq_of_readAll {α : Type} {read : String → Except Report α} {texts : List String}
    {keys : List α} (h : readAll read texts = .ok keys) :
    keys = texts.filterMap fun text => (read text).toOption := by
  unfold readAll at h
  split at h
  · exact (Except.ok.inj h).symm
  · cases h

/-- A text that is no key has an issue, so no text is passed over in silence. -/
theorem exists_key_of_readAll {α : Type} {read : String → Except Report α} {texts : List String}
    {keys : List α} (hread : ∀ text, read text ≠ .error []) (h : readAll read texts = .ok keys)
    {text : String} (hmem : text ∈ texts) : ∃ key ∈ keys, read text = .ok key := by
  have hkeys := eq_of_readAll h
  unfold readAll at h
  split at h
  next hnone =>
    have hissues := List.flatMap_eq_nil_iff.mp hnone text hmem
    cases hone : read text with
    | error report =>
        have hempty : report = [] := by simpa [hone, Report.ofRead] using hissues
        exact absurd (hempty ▸ hone) (hread text)
    | ok key =>
        refine ⟨key, ?_, rfl⟩
        rw [hkeys, List.mem_filterMap]
        exact ⟨text, hmem, by rw [hone]; rfl⟩
  next => cases h

/-- Texts that are all keys are read as these keys. -/
theorem readAll_of_read {α : Type} {read : String → Except Report α} {texts : List String}
    (h : ∀ text ∈ texts, ∃ key, read text = .ok key) :
    readAll read texts = .ok (texts.filterMap fun text => (read text).toOption) := by
  have hnone : texts.flatMap (Report.ofRead ∘ read) = [] := by
    rw [List.flatMap_eq_nil_iff]
    intro text htext
    obtain ⟨key, hkey⟩ := h text htext
    rw [Function.comp_apply, hkey]
    rfl
  rw [readAll, hnone]

theorem readAll_of_issues {α : Type} {read : String → Except Report α} {texts : List String}
    (h : texts.flatMap (Report.ofRead ∘ read) ≠ []) :
    readAll read texts = .error (texts.flatMap (Report.ofRead ∘ read)) := by
  unfold readAll
  split
  next hnone => exact absurd hnone h
  next => rfl

theorem exists_resolve_ids {ids : List String} (hsome : ids ≠ [])
    (h : ∀ text ∈ ids, ∃ id, OrderId.parseField "ids" text = .ok id) :
    ∃ keys, resolve ids [] = .ok (.ids keys) := by
  cases ids with
  | nil => exact absurd rfl hsome
  | cons text ids =>
      rw [resolve, readAll_of_read h]
      exact ⟨_, rfl⟩

theorem exists_resolve_caseIds {caseIds : List String} (hsome : caseIds ≠ [])
    (h : ∀ text ∈ caseIds, ∃ caseId, CaseId.parseField "case_ids" text = .ok caseId) :
    ∃ keys, resolve [] caseIds = .ok (.caseIds keys) := by
  cases caseIds with
  | nil => exact absurd rfl hsome
  | cons text caseIds =>
      rw [resolve, readAll_of_read h]
      exact ⟨_, rfl⟩

theorem parseField_orderId_ne (field text : String) :
    OrderId.parseField field text ≠ .error [] := by
  unfold OrderId.parseField
  split
  · simp
  · split <;> simp

theorem parseField_caseId_ne (field text : String) :
    CaseId.parseField field text ≠ .error [] := by
  unfold CaseId.parseField
  split
  · simp
  · split
    · split <;> simp
    next hissues => simpa using hissues

private theorem keys_of_readAll {α : Type} [DecidableEq α] {read : String → Except Report α}
    {key : α → Nat} {text : String} {texts : List String} {keys : List α}
    (hread : ∀ text, read text ≠ .error []) (hkey : Function.Injective key)
    (h : readAll read (text :: texts) = .ok keys) :
    (Sorted.ofKeys key keys).length ≠ 0 ∧ (Sorted.ofKeys key keys).length =
      ((text :: texts).filterMap fun text => (read text).toOption).dedup.length := by
  obtain ⟨k, hk, _⟩ := exists_key_of_readAll hread h (List.mem_cons_self ..)
  have hmem := (Sorted.mem_ofKeys hkey).mpr hk
  refine ⟨?_, ?_⟩
  · exact Nat.ne_of_gt (List.length_pos_of_mem hmem)
  · rw [Sorted.length_ofKeys hkey, eq_of_readAll h]

/-- The keys of a resolved filter are those of the request: at least one, and each once. -/
theorem keys_of_resolve {ids caseIds : List String} {filter : OrderFilter}
    (h : resolve ids caseIds = .ok filter) :
    filter.isEmpty = false ∧ filter.size = distinctKeys ids caseIds := by
  unfold resolve at h
  split at h
  · cases h
  · cases h
  · split at h
    next keys hkeys =>
      cases h
      have hsize := keys_of_readAll (parseField_orderId_ne "ids") OrderId.value_injective hkeys
      exact ⟨by simpa [isEmpty, size] using hsize.1, hsize.2⟩
    next => cases h
  · split at h
    next keys hkeys =>
      cases h
      have hsize :=
        keys_of_readAll (parseField_caseId_ne "case_ids") CaseId.number_injective hkeys
      exact ⟨by simpa [isEmpty, size] using hsize.1, by simpa [size, distinctKeys] using hsize.2⟩
    next => cases h

theorem mem_keys_of_readAll {α : Type} {read : String → Except Report α}
    {key : α → Nat} {texts : List String} {keys : List α} (hkey : Function.Injective key)
    (h : readAll read texts = .ok keys) (k : α) :
    k ∈ Sorted.ofKeys key keys ↔ ∃ text ∈ texts, read text = .ok k := by
  have hsome : ∀ text, (read text).toOption = some k ↔ read text = .ok k := by
    intro text
    cases read text <;> simp [Except.toOption]
  rw [Sorted.mem_ofKeys hkey, eq_of_readAll h, List.mem_filterMap]
  simp only [hsome]

/-- A resolved filter asks for the orders whose keys the request has. -/
theorem wants_of_resolve {ids caseIds : List String} {filter : OrderFilter}
    (h : resolve ids caseIds = .ok filter) (order : Order) :
    filter.wants order = true ↔ Named ids caseIds order := by
  unfold resolve at h
  split at h
  · cases h
  · cases h
  · split at h
    next keys hkeys =>
      cases h
      have hmem := mem_keys_of_readAll OrderId.value_injective hkeys order.id
      simpa [wants, Named] using hmem
    next => cases h
  · split at h
    next keys hkeys =>
      cases h
      have hmem := mem_keys_of_readAll CaseId.number_injective hkeys order.caseId
      simpa [wants, Named] using hmem
    next => cases h

/-- A resolved filter is answered once every text of the request is the key of an order. -/
theorem answered_of_resolve {ids caseIds : List String} {filter : OrderFilter}
    {orders : List Order} (h : resolve ids caseIds = .ok filter)
    (hids : ∀ text ∈ ids, ∃ order ∈ orders, OrderId.parseField "ids" text = .ok order.id)
    (hcases : ∀ text ∈ caseIds, ∃ order ∈ orders,
      CaseId.parseField "case_ids" text = .ok order.caseId) :
    filter.Answered orders := by
  unfold resolve at h
  split at h
  · cases h
  · cases h
  · split at h
    next keys hkeys =>
      cases h
      intro id hid
      obtain ⟨text, htext, hread⟩ :=
        (mem_keys_of_readAll OrderId.value_injective hkeys id).mp hid
      obtain ⟨order, horder, hown⟩ := hids text htext
      exact ⟨order, horder, Except.ok.inj (hown.symm.trans hread)⟩
    next => cases h
  · split at h
    next keys hkeys =>
      cases h
      intro caseId hcase
      obtain ⟨text, htext, hread⟩ :=
        (mem_keys_of_readAll CaseId.number_injective hkeys caseId).mp hcase
      obtain ⟨order, horder, hown⟩ := hcases text htext
      exact ⟨order, horder, Except.ok.inj (hown.symm.trans hread)⟩
    next => cases h

end OrderFilter

end PaymentOrders
