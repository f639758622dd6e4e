import PaymentOrders.Proofs.OrderFilter
import PaymentOrders.Proofs.Steps
import PaymentOrders.Service
/-!
# Requests that are judged

What a request that is in order comes to: the fields that it asks for. One that is not is refused
as a mistake of its caller, whatever is wrong with it.
-/

namespace PaymentOrders

/-- The fields are those that the request asks for, every text as it was written. -/
structure OrderRequest.AsksFor (request : OrderRequest) (fields : OrderFields) : Prop where
  effectiveFrom : request.effectiveFrom = some fields.effectiveFrom
  caseId : request.caseId = fields.caseId.toText
  action : request.action = fields.action
  responsibleParty : request.responsibleParty = fields.responsibleParty
  orderReference : request.orderReference = fields.orderReference

theorem OrderRequest.asksFor_of_fields? {request : OrderRequest} {fields : OrderFields}
    (h : request.fields? = some fields) : request.AsksFor fields := by
  unfold OrderRequest.fields? at h
  split at h
  next effectiveFrom caseId heffective hcase =>
    cases h
    exact ⟨heffective, CaseId.eq_toText_of_parseField hcase, rfl, rfl, rfl⟩
  next => cases h

theorem OrderRequest.asksFor_of_read {request : OrderRequest} {fields : OrderFields}
    (h : request.read = .ok fields) : request.AsksFor fields := by
  unfold OrderRequest.read at h
  split at h
  next hfields _ =>
    cases h
    exact asksFor_of_fields? hfields
  next => cases h

theorem UpdateRequest.asksFor_of_read {request : UpdateRequest} {id : OrderId}
    {fields : OrderFields} (h : request.read = .ok (id, fields)) :
    OrderId.parseField "id" request.id = .ok id ∧ request.order.AsksFor fields := by
  unfold UpdateRequest.read at h
  split at h
  next hid hfields _ =>
    cases h
    exact ⟨hid, OrderRequest.asksFor_of_fields? hfields⟩
  next => cases h

theorem OrderFields.kind_of_validate {fields : OrderFields} {error : OrderError}
    (h : fields.validate = .error error) : error.kind = .validation := by
  unfold OrderFields.validate at h
  split at h
  · cases h
  · cases h
    rfl

theorem OrderRequest.kind_of_read {request : OrderRequest} {error : OrderError}
    (h : request.read = .error error) : error.kind = .validation := by
  unfold OrderRequest.read at h
  split at h
  · cases h
  · cases h
    rfl

theorem UpdateRequest.kind_of_read {request : UpdateRequest} {error : OrderError}
    (h : request.read = .error error) : error.kind = .validation := by
  unfold UpdateRequest.read at h
  split at h
  · cases h
  · cases h
    rfl

theorem OrderFilter.kind_of_resolve {ids caseIds : List String} {error : OrderError}
    (h : resolve ids caseIds = .error error) : error.kind = .validation := by
  unfold resolve at h
  split at h
  · cases h
    rfl
  · cases h
    rfl
  · split at h
    · cases h
    · cases h
      rfl
  · split at h
    · cases h
    · cases h
      rfl

theorem PageRequest.kind_of_make {page size : UInt32} {error : OrderError}
    (h : make page size = .error error) : error.kind = .validation := by
  unfold make checkedOffset at h
  split at h
  · cases h
    rfl
  · split at h
    · cases h
    · cases h
      rfl

theorem PageRequest.checkedOffset_of_make {page size : UInt32} {request : PageRequest}
    (h : make page size = .ok request) :
    request.checkedOffset = .ok request.offset.toNat := by
  unfold make at h
  split at h
  · cases h
  · unfold checkedOffset at h
    split at h
    next hle =>
      cases h
      rw [checkedOffset, if_pos hle]
    next => cases h

theorem OrderRequest.validate_of_fields? {request : OrderRequest} {fields : OrderFields}
    (hfields : request.fields? = some fields) (hissues : request.issues = []) :
    fields.validate = .ok () := by
  unfold OrderRequest.fields? at hfields
  split at hfields
  · cases hfields
    rw [OrderFields.validate, (List.append_eq_nil_iff.mp hissues).2]
  · cases hfields

theorem OrderRequest.validate_of_read {request : OrderRequest} {fields : OrderFields}
    (h : request.read = .ok fields) : fields.validate = .ok () := by
  unfold OrderRequest.read at h
  split at h
  next hfields hissues =>
    cases h
    exact OrderRequest.validate_of_fields? hfields hissues
  next => cases h

theorem UpdateRequest.validate_of_read {request : UpdateRequest} {id : OrderId}
    {fields : OrderFields} (h : request.read = .ok (id, fields)) : fields.validate = .ok () := by
  unfold UpdateRequest.read at h
  split at h
  next hfields hissues =>
    cases h
    exact OrderRequest.validate_of_fields? hfields (List.append_eq_nil_iff.mp hissues).2
  next => cases h

namespace Service

theorem kind_of_readId {text : String} {error : OrderError} (h : readId text = .error error) :
    error.kind = .validation := by
  unfold readId at h
  cases hparse : OrderId.parseField "id" text with
  | ok id =>
      rw [hparse] at h
      cases h
  | error report =>
      rw [hparse] at h
      cases h
      rfl

def readQuery (request : QueryRequest) : Except OrderError (OrderFilter × PageRequest) := do
  let filter ← OrderFilter.resolve request.ids request.caseIds
  let page ← PageRequest.make (request.page.getD 0) (request.size.getD PageRequest.defaultSize)
  return (filter, page)

theorem kind_of_readQuery {request : QueryRequest} {error : OrderError}
    (h : readQuery request = .error error) : error.kind = .validation := by
  unfold readQuery at h
  cases hfilter : OrderFilter.resolve request.ids request.caseIds with
  | error found =>
      rw [hfilter] at h
      cases h
      exact OrderFilter.kind_of_resolve hfilter
  | ok filter =>
      rw [hfilter, Steps.bind_ok] at h
      cases hpage : PageRequest.make (request.page.getD 0)
          (request.size.getD PageRequest.defaultSize) with
      | error found =>
          rw [hpage] at h
          cases h
          exact PageRequest.kind_of_make hpage
      | ok page =>
          rw [hpage] at h
          cases h

theorem of_readQuery {request : QueryRequest} {filter : OrderFilter} {page : PageRequest}
    (h : readQuery request = .ok (filter, page)) :
    filter.isEmpty = false ∧ page.checkedOffset = .ok page.offset.toNat := by
  obtain ⟨found, hfilter, h⟩ := Steps.bind_eq_ok.mp h
  obtain ⟨made, hpage, h⟩ := Steps.bind_eq_ok.mp h
  cases h
  exact ⟨(OrderFilter.keys_of_resolve hfilter).1, PageRequest.checkedOffset_of_make hpage⟩

end Service

end PaymentOrders
