import PaymentOrders.Proofs.Store.Session
import PaymentOrders.Proofs.Store.Row
/-!
# Rows that are not read

A stored row that is not read is a fault, with one exception: a case id that is no case number is
an error of the domain. So it is told like a mistake of the caller once everything that is read
before it is in order.
-/

namespace PaymentOrders.Store

/-- The number has the sign of a case number and is none. -/
def Misnumbered (raw : Int) : Prop :=
  0 ≤ raw ∧ isCaseNumber raw.toNat = false

theorem kind_of_readOrderId {raw : String} {failure : Failure}
    (h : readOrderId raw = .error failure) : failure.kind = .fatal := by
  unfold readOrderId at h
  cases hread : OrderId.ofText raw with
  | ok id =>
      rw [hread] at h
      cases h
  | error error =>
      rw [hread] at h
      cases h
      rfl

theorem kind_of_readTimestamp {raw : String} {failure : Failure}
    (h : readTimestamp raw = .error failure) : failure.kind = .fatal := by
  unfold readTimestamp at h
  cases hread : Timestamp.ofText raw with
  | ok time =>
      rw [hread] at h
      cases h
  | error error =>
      rw [hread] at h
      cases h
      rfl

theorem not_misnumbered_of_readCaseId {raw : Int} {id : CaseId} (h : readCaseId raw = .ok id) :
    ¬ Misnumbered raw := by
  rintro ⟨_, hnumber⟩
  have hraw := number_of_readCaseId h
  have hsame : raw.toNat = id.number := by omega
  rw [hsame, id.valid] at hnumber
  cases hnumber

theorem kind_of_readCaseId {raw : Int} {failure : Failure} (h : readCaseId raw = .error failure) :
    Misnumbered raw ∧ failure.kind = .validation ∨
      ¬ Misnumbered raw ∧ failure.kind = .fatal := by
  unfold readCaseId at h
  split at h
  next hneg =>
    cases h
    exact .inr ⟨fun hmis => absurd hmis.1 (Int.not_le.mpr hneg), rfl⟩
  next hnonneg =>
    cases hread : CaseId.ofNumber raw.toNat with
    | ok id =>
        rw [hread] at h
        cases h
    | error report =>
        rw [hread] at h
        cases h
        refine .inl ⟨⟨Int.not_lt.mp hnonneg, ?_⟩, rfl⟩
        cases hnumber : isCaseNumber raw.toNat with
        | false => rfl
        | true =>
            have hok : CaseId.ofNumber raw.toNat = .ok ⟨raw.toNat, hnumber⟩ :=
              CaseId.ofNumber_number ⟨raw.toNat, hnumber⟩
            rw [hread] at hok
            cases hok

theorem exists_error_of_misnumbered {raw : Int} (h : Misnumbered raw) :
    ∃ failure, readCaseId raw = .error failure := by
  cases hread : readCaseId raw with
  | error failure => exact ⟨failure, rfl⟩
  | ok id => exact absurd h (not_misnumbered_of_readCaseId hread)

/-! ## Rows of orders -/

namespace OrderRow

/-- The id of the row is read, and its case id is none. -/
def Misnumbered (row : OrderRow) : Prop :=
  ∃ raw id, row.id = some raw ∧ readOrderId raw = .ok id ∧ Store.Misnumbered row.caseId

theorem kind_of_toOrder {row : OrderRow} {failure : Failure} (h : row.toOrder = .error failure) :
    row.Misnumbered ∧ failure.kind = .validation ∨
      ¬ row.Misnumbered ∧ failure.kind = .fatal := by
  unfold toOrder at h
  split at h
  next hnone =>
    cases h
    refine .inr ⟨?_, rfl⟩
    rintro ⟨raw, id, hsome, _⟩
    rw [hnone] at hsome
    cases hsome
  next raw hraw =>
    rcases Steps.bind_eq_error.mp h with hid | ⟨id, hid, h⟩
    · refine .inr ⟨?_, kind_of_readOrderId hid⟩
      rintro ⟨raw', id, hsome, hread, _⟩
      rw [hraw] at hsome
      cases hsome
      rw [hid] at hread
      cases hread
    rcases Steps.bind_eq_error.mp h with hcase | ⟨caseId, hcase, h⟩
    · rcases kind_of_readCaseId hcase with ⟨hmis, hkind⟩ | ⟨hmis, hkind⟩
      · exact .inl ⟨⟨raw, id, hraw, hid, hmis⟩, hkind⟩
      · exact .inr ⟨fun ⟨_, _, _, _, hrow⟩ => hmis hrow, hkind⟩
    -- The case id is read, so only a timestamp is left that can fail.
    refine .inr ⟨fun ⟨_, _, _, _, hrow⟩ => not_misnumbered_of_readCaseId hcase hrow, ?_⟩
    rcases Steps.bind_eq_error.mp h with heffective | ⟨effectiveFrom, _, h⟩
    · exact kind_of_readTimestamp heffective
    rcases Steps.bind_eq_error.mp h with hcreated | ⟨createdTimestamp, _, h⟩
    · exact kind_of_readTimestamp hcreated
    cases h

end OrderRow

/-! ## Rows of the trail -/

namespace RevisionRow

/-- No part of the row's snapshot is missing, and its case id is none. -/
structure ShowsMisnumbered (row : RevisionRow) : Prop where
  caseId : ∃ raw, row.caseId = some raw ∧ Store.Misnumbered raw
  texts : row.orderReference.isSome ∧ row.action.isSome ∧ row.responsibleParty.isSome ∧
    row.effectiveFrom.isSome ∧ row.createdTimestamp.isSome ∧ row.createdBy.isSome

/-- The id of the row is read, its change is known and its case id is none. -/
structure Misnumbered (row : RevisionRow) : Prop where
  recordId : ∃ id, readOrderId row.recordId = .ok id
  changeType : ∃ change, ChangeType.ofName? row.changeType = some change
  snapshot : row.ShowsMisnumbered

variable {row : RevisionRow} {id : OrderId} {failure : Failure}

theorem kind_of_snapshot (h : row.snapshot id = .error failure) :
    row.ShowsMisnumbered ∧ failure.kind = .validation ∨
      ¬ row.ShowsMisnumbered ∧ failure.kind = .fatal := by
  unfold snapshot at h
  split at h
  next raw _ _ _ _ _ _ hraw href haction hparty heffective hcreated hby =>
    rcases Steps.bind_eq_error.mp h with hcase | ⟨caseId, hcase, h⟩
    · rcases kind_of_readCaseId hcase with ⟨hmis, hkind⟩ | ⟨hmis, hkind⟩
      · refine .inl ⟨⟨⟨raw, hraw, hmis⟩, ?_⟩, hkind⟩
        simp [href, haction, hparty, heffective, hcreated, hby]
      · refine .inr ⟨?_, hkind⟩
        rintro ⟨⟨other, hother, hrow⟩, _⟩
        rw [hraw] at hother
        cases hother
        exact hmis hrow
    refine .inr ⟨?_, ?_⟩
    · rintro ⟨⟨other, hother, hrow⟩, _⟩
      rw [hraw] at hother
      cases hother
      exact not_misnumbered_of_readCaseId hcase hrow
    rcases Steps.bind_eq_error.mp h with hfrom | ⟨effectiveFrom, _, h⟩
    · exact kind_of_readTimestamp hfrom
    rcases Steps.bind_eq_error.mp h with hsince | ⟨createdTimestamp, _, h⟩
    · exact kind_of_readTimestamp hsince
    cases h
  next => cases h

theorem not_showsMisnumbered_of_snapshot {shown : Option Order} (h : row.snapshot id = .ok shown) :
    ¬ row.ShowsMisnumbered := by
  rintro ⟨⟨raw, hraw, hmis⟩, htexts⟩
  simp only [Option.isSome_iff_exists] at htexts
  obtain ⟨⟨_, href⟩, ⟨_, haction⟩, ⟨_, hparty⟩, ⟨_, hfrom⟩, ⟨_, hsince⟩, _, hby⟩ := htexts
  obtain ⟨failure, hcase⟩ := exists_error_of_misnumbered hmis
  simp only [snapshot, hraw, href, haction, hparty, hfrom, hsince, hby, hcase] at h
  cases h

theorem kind_of_toRevision (h : row.toRevision = .error failure) :
    row.Misnumbered ∧ failure.kind = .validation ∨
      ¬ row.Misnumbered ∧ failure.kind = .fatal := by
  unfold toRevision at h
  rcases Steps.bind_eq_error.mp h with hid | ⟨id, hid, h⟩
  · refine .inr ⟨?_, kind_of_readOrderId hid⟩
    rintro ⟨⟨id, hread⟩, _⟩
    rw [hid] at hread
    cases hread
  split at h
  next hnone =>
    cases h
    refine .inr ⟨?_, rfl⟩
    rintro ⟨_, ⟨change, hsome⟩, _⟩
    rw [hnone] at hsome
    cases hsome
  next change hchange =>
    rcases Steps.bind_eq_error.mp h with hshown | ⟨shown, hshown, h⟩
    · rcases kind_of_snapshot hshown with ⟨hmis, hkind⟩ | ⟨hmis, hkind⟩
      · exact .inl ⟨⟨⟨id, hid⟩, ⟨change, hchange⟩, hmis⟩, hkind⟩
      · exact .inr ⟨fun hrow => hmis hrow.snapshot, hkind⟩
    refine .inr ⟨fun hrow => not_showsMisnumbered_of_snapshot hshown hrow.snapshot, ?_⟩
    rcases Steps.bind_eq_error.mp h with htime | ⟨time, _, h⟩
    · exact kind_of_readTimestamp htime
    cases h

end RevisionRow

end PaymentOrders.Store
