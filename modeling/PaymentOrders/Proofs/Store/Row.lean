import PaymentOrders.Proofs.CaseId
import PaymentOrders.Proofs.OrderId
import PaymentOrders.Proofs.Steps
import PaymentOrders.Proofs.Timestamp
import PaymentOrders.Store.Row
/-!
# Rows and what they mean

A row that was written for an order is read back as that order, and so is a row of the trail.
Of a row that is read, whoever wrote it, the case id is the number in its column.
-/

namespace PaymentOrders.Store

@[simp] theorem readOrderId_toText (id : OrderId) : readOrderId id.toText = .ok id := by
  rw [readOrderId, OrderId.ofText_toText]
  rfl

@[simp] theorem readTimestamp_toText (t : Timestamp) : readTimestamp t.toText = .ok t := by
  rw [readTimestamp, Timestamp.ofText_toText]
  rfl

@[simp] theorem readCaseId_number (id : CaseId) : readCaseId (id.number : Int) = .ok id := by
  have hnonneg : ¬ (id.number : Int) < 0 := by omega
  rw [readCaseId, if_neg hnonneg, Int.toNat_natCast, CaseId.ofNumber_number]
  rfl

theorem number_of_readCaseId {raw : Int} {id : CaseId} (h : readCaseId raw = .ok id) :
    (id.number : Int) = raw := by
  unfold readCaseId at h
  split at h
  · cases h
  · cases hread : CaseId.ofNumber raw.toNat with
    | error report => simp [hread, Except.mapError] at h
    | ok found =>
        rw [hread] at h
        cases h
        rw [CaseId.number_of_ofNumber hread]
        omega

namespace OrderRow

/-- What each column of a row says of an order. -/
structure Tells (row : OrderRow) (order : Order) : Prop where
  id : ∃ raw, row.id = some raw ∧ readOrderId raw = .ok order.id
  caseId : readCaseId row.caseId = .ok order.caseId
  orderReference : row.orderReference = order.orderReference
  action : row.action = order.action
  responsibleParty : row.responsibleParty = order.responsibleParty
  effectiveFrom : readTimestamp row.effectiveFrom = .ok order.effectiveFrom
  createdTimestamp : readTimestamp row.createdTimestamp = .ok order.createdTimestamp
  createdBy : row.createdBy = order.createdBy

/-- A row is read as an order exactly if every column of it tells of that order. -/
theorem toOrder_eq_ok {row : OrderRow} {order : Order} :
    row.toOrder = .ok order ↔ row.Tells order := by
  constructor
  · intro h
    unfold toOrder at h
    split at h
    · cases h
    next raw hraw =>
      obtain ⟨id, hid, h⟩ := Steps.bind_eq_ok.mp h
      obtain ⟨caseId, hcase, h⟩ := Steps.bind_eq_ok.mp h
      obtain ⟨effectiveFrom, heffective, h⟩ := Steps.bind_eq_ok.mp h
      obtain ⟨createdTimestamp, hcreated, h⟩ := Steps.bind_eq_ok.mp h
      cases h
      exact ⟨⟨raw, hraw, hid⟩, hcase, rfl, rfl, rfl, heffective, hcreated, rfl⟩
  · rintro ⟨⟨raw, hraw, hid⟩, hcase, href, haction, hparty, heffective, hcreated, hby⟩
    rw [toOrder, hraw]
    simp only [hid, hcase, heffective, hcreated, Steps.bind_ok, href, haction, hparty, hby]
    rfl

theorem tells_ofOrder (order : Order) : (ofOrder order).Tells order where
  id := ⟨_, rfl, readOrderId_toText order.id⟩
  caseId := readCaseId_number order.caseId
  orderReference := rfl
  action := rfl
  responsibleParty := rfl
  effectiveFrom := readTimestamp_toText order.effectiveFrom
  createdTimestamp := readTimestamp_toText order.createdTimestamp
  createdBy := rfl

@[simp] theorem toOrder_ofOrder (order : Order) : (ofOrder order).toOrder = .ok order :=
  toOrder_eq_ok.mpr (tells_ofOrder order)

theorem ofOrder_injective : Function.Injective ofOrder := by
  intro a b h
  have hread := congrArg toOrder h
  rw [toOrder_ofOrder, toOrder_ofOrder] at hread
  exact Except.ok.inj hread

theorem of_toOrder {row : OrderRow} {order : Order} (h : row.toOrder = .ok order) :
    row.caseId = order.caseId.number ∧ row.orderReference = order.orderReference := by
  have htells := toOrder_eq_ok.mp h
  exact ⟨(number_of_readCaseId htells.caseId).symm, htells.orderReference⟩

/-- A row under a canonical id is read as the order with that id. -/
theorem id_of_toOrder {row : OrderRow} {order : Order} {id : OrderId}
    (hid : row.id = some id.toText) (h : row.toOrder = .ok order) : order.id = id := by
  obtain ⟨raw, hraw, hread⟩ := (toOrder_eq_ok.mp h).id
  have hsame : id.toText = raw := Option.some.inj (hid.symm.trans hraw)
  rw [← hsame, readOrderId_toText] at hread
  exact (Except.ok.inj hread).symm

@[simp] theorem hasId_ofOrder (id : OrderId) (order : Order) :
    hasId id (ofOrder order) = decide (order.id = id) := by
  rw [hasId, Bool.eq_iff_iff]
  simp [ofOrder]

end OrderRow

namespace RevisionRow

@[simp] theorem snapshot_ofSnapshot (number : Int) (change : ChangeType) (time : Timestamp)
    (order : Order) : (ofSnapshot number change time order).snapshot order.id =
      .ok (some order) := by
  simp only [snapshot, ofSnapshot, readCaseId_number, readTimestamp_toText]
  rfl

@[simp] theorem toRevision_ofSnapshot (number : Int) (change : ChangeType) (time : Timestamp)
    (order : Order) :
    (ofSnapshot number change time order).toRevision =
      .ok { number, recordId := order.id, changeType := change, timestamp := time
            snapshot := some order } := by
  rw [toRevision, show (ofSnapshot number change time order).recordId = order.id.toText from rfl,
    show (ofSnapshot number change time order).changeType = change.name from rfl,
    readOrderId_toText, ChangeType.ofName?_name]
  simp only [Steps.bind_ok, snapshot_ofSnapshot]
  rw [show (ofSnapshot number change time order).timestamp = time.toText from rfl,
    readTimestamp_toText]
  rfl

/-- What each column of a row says of an order that it keeps whole. -/
structure Keeps (row : RevisionRow) (order : Order) : Prop where
  recordId : readOrderId row.recordId = .ok order.id
  caseId : ∃ raw, row.caseId = some raw ∧ readCaseId raw = .ok order.caseId
  orderReference : row.orderReference = some order.orderReference
  action : row.action = some order.action
  responsibleParty : row.responsibleParty = some order.responsibleParty
  effectiveFrom : ∃ raw, row.effectiveFrom = some raw ∧ readTimestamp raw = .ok order.effectiveFrom
  createdTimestamp :
    ∃ raw, row.createdTimestamp = some raw ∧ readTimestamp raw = .ok order.createdTimestamp
  createdBy : row.createdBy = some order.createdBy

/-- The snapshot of a revision is the order that the columns of its row keep. -/
theorem keeps_of_toRevision {row : RevisionRow} {revision : Revision} {order : Order}
    (h : row.toRevision = .ok revision) (hwhole : revision.snapshot = some order) :
    row.Keeps order ∧ order.id = revision.recordId ∧
      row.number = revision.number ∧ row.changeType = revision.changeType.name := by
  obtain ⟨recordId, hrecord, h⟩ := Steps.bind_eq_ok.mp h
  split at h
  · cases h
  next change hchange =>
    obtain ⟨snapshot?, hsnapshot, h⟩ := Steps.bind_eq_ok.mp h
    obtain ⟨timestamp, _, h⟩ := Steps.bind_eq_ok.mp h
    cases h
    subst hwhole
    unfold snapshot at hsnapshot
    split at hsnapshot
    next hcase href haction hparty heffective hcreated hby =>
      obtain ⟨caseId, hcaseId, hsnapshot⟩ := Steps.bind_eq_ok.mp hsnapshot
      obtain ⟨effectiveFrom, heffectiveFrom, hsnapshot⟩ := Steps.bind_eq_ok.mp hsnapshot
      obtain ⟨createdTimestamp, hcreatedTimestamp, hsnapshot⟩ := Steps.bind_eq_ok.mp hsnapshot
      cases hsnapshot
      exact ⟨⟨hrecord, ⟨_, hcase, hcaseId⟩, href, haction, hparty,
        ⟨_, heffective, heffectiveFrom⟩, ⟨_, hcreated, hcreatedTimestamp⟩, hby⟩, rfl, rfl,
        (ChangeType.name_of_ofName? hchange).symm⟩
    next => cases hsnapshot

@[simp] theorem belongsTo_ofSnapshot (id : OrderId) (number : Int) (change : ChangeType)
    (time : Timestamp) (order : Order) :
    belongsTo id (ofSnapshot number change time order) = decide (order.id = id) := by
  rw [belongsTo, Bool.eq_iff_iff]
  simp [ofSnapshot]

end RevisionRow

end PaymentOrders.Store
