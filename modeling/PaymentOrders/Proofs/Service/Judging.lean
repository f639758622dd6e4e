import PaymentOrders.Proofs.CaseId.Forms
import PaymentOrders.Proofs.Service.Blame
import PaymentOrders.Proofs.Service.Health
import PaymentOrders.Proofs.Service.Refusal
/-!
# Everything that is wrong with a request

A request to create or to change an order is told everything that is wrong with it at once, field by
field, and goes on to the database exactly if nothing is. The store then finds nothing wrong with
the fields either: a creation is only refused for a caller whose name is not known, for the reason
that is given for that, or for one without a name, and for the latter only once the database is open
and migrated; and a change is not refused as long as the stored row is read.
-/

namespace PaymentOrders

open Store

/-- Everything that is wrong with the text of an order id. -/
def OrderId.complaints (field text : String) : Report :=
  if Text.isBlank text then [.required field]
  else if OrderId.parse text = none then [.malformedId field text]
  else []

/-- The fields among some that are blank, in their order. -/
def blankFields (fields : List (String × String)) : List String :=
  (fields.filter fun field => Text.isBlank field.2).map Prod.fst

/-- Everything that is wrong with the fields of a request, in the order of the fields. -/
def OrderRequest.complaints (request : OrderRequest) : Report :=
  (if request.effectiveFrom = none then [.required "effective_from"] else []) ++
    CaseId.complaints "case_id" request.caseId ++
    (blankFields [("action", request.action), ("responsible_party", request.responsibleParty),
      ("order_reference", request.orderReference)]).map Issue.required

/-- Everything that is wrong with a request to change an order, its id first. -/
def UpdateRequest.complaints (request : UpdateRequest) : Report :=
  OrderId.complaints "id" request.id ++ request.order.complaints

/-! ## Reading a request -/

theorem OrderId.ofRead_parseField_eq (field text : String) :
    Report.ofRead (OrderId.parseField field text) = OrderId.complaints field text := by
  unfold OrderId.parseField Issue.ofBlank OrderId.complaints
  by_cases hblank : Text.isBlank text = true
  · rw [if_pos hblank, if_pos hblank]
    rfl
  · rw [if_neg hblank, if_neg hblank]
    cases OrderId.parse text <;> rfl

theorem Issue.ofBlanks_eq (fields : List (String × String)) :
    Issue.ofBlanks fields = (blankFields fields).map Issue.required := by
  unfold Issue.ofBlanks blankFields
  induction fields with
  | nil => rfl
  | cons field fields ih =>
      obtain ⟨name, text⟩ := field
      by_cases hblank : Text.isBlank text = true
      · have hissue : Issue.ofBlank name text = some (.required name) := if_pos hblank
        simp only [List.filterMap_cons, hissue, List.filter_cons, if_pos hblank, List.map_cons, ih]
      · have hissue : Issue.ofBlank name text = none := if_neg hblank
        simp only [List.filterMap_cons, hissue, List.filter_cons, if_neg hblank, ih]

namespace OrderRequest

theorem issues_eq_complaints (request : OrderRequest) : request.issues = request.complaints := by
  rw [issues, complaints, CaseId.ofRead_parseField_eq, requiredTexts, Issue.ofBlanks_eq]
  simp only [Option.isNone_iff_eq_none]

theorem fields?_of_complaints {request : OrderRequest} (h : request.complaints = []) :
    ∃ fields, request.fields? = some fields ∧ request.AsksFor fields := by
  rw [complaints, List.append_eq_nil_iff, List.append_eq_nil_iff, ite_eq_right_iff] at h
  obtain ⟨⟨hdate, hcase⟩, _⟩ := h
  cases heffective : request.effectiveFrom with
  | none => exact absurd (hdate heffective) (List.cons_ne_nil _ _)
  | some effectiveFrom =>
      obtain ⟨caseId, hread⟩ : ∃ caseId, CaseId.parseField "case_id" request.caseId = .ok caseId :=
        CaseId.exists_parseField_iff.mpr (CaseId.complaints_eq_nil_iff.mp hcase)
      have hfields : request.fields? = some ⟨effectiveFrom, caseId, request.action,
          request.responsibleParty, request.orderReference⟩ := by
        rw [fields?, heffective, hread]
      exact ⟨_, hfields, asksFor_of_fields? hfields⟩

theorem read_of_complaints {request : OrderRequest} (h : request.complaints = []) :
    ∃ fields, request.read = .ok fields ∧ request.AsksFor fields := by
  obtain ⟨fields, hfields, hasks⟩ := fields?_of_complaints h
  rw [← issues_eq_complaints] at h
  exact ⟨fields, by rw [read, hfields, h], hasks⟩

end OrderRequest

namespace UpdateRequest

theorem issues_eq_complaints (request : UpdateRequest) : request.issues = request.complaints := by
  rw [issues, complaints, OrderId.ofRead_parseField_eq, OrderRequest.issues_eq_complaints]

theorem read_of_complaints {request : UpdateRequest} (h : request.complaints = []) :
    ∃ id fields, request.read = .ok (id, fields) ∧ OrderId.parse request.id = some id ∧
      request.order.AsksFor fields := by
  obtain ⟨hid, horder⟩ := List.append_eq_nil_iff.mp h
  obtain ⟨fields, hfields, hasks⟩ := OrderRequest.fields?_of_complaints horder
  rw [← issues_eq_complaints] at h
  cases hread : OrderId.parseField "id" request.id with
  | error report =>
      rw [← OrderId.ofRead_parseField_eq, hread] at hid
      rw [show report = [] from hid] at hread
      exact absurd hread (OrderFilter.parseField_orderId_ne "id" request.id)
  | ok id =>
      exact ⟨id, fields, by rw [read, hread, hfields, h], OrderId.parseField_eq_ok.mp hread, hasks⟩

end UpdateRequest

namespace Service

/-! ## Creating and changing -/

/-- The error of a creation by a caller whose name is blank. -/
def nameless : Failure :=
  .ofError (.validation [.required "created_by"])

section Ending

variable {path : String} {disk : Disk} {fields : OrderFields} {migrated : Database}

theorem create_of_read {request : OrderRequest} (hread : request.read = .ok fields)
    (identity : Identity) (fresh : OrderId) (clock : Clock) :
    create path request identity fresh clock disk =
      (callerName identity >>= fun name =>
        onMigrated path (createOrder fields name fresh clock)) disk := by
  rw [OrderCall.create_apply, hread]
  cases identity <;> rfl

theorem create_of_named {request : OrderRequest} (hread : request.read = .ok fields)
    {name : String} (hname : Text.isBlank name = false) (fresh : OrderId) (clock : Clock) :
    Blameless (create path request (.ok name) fresh clock disk).1 := by
  rw [OrderCall.create_apply, hread]
  apply blameless_onMigrated
  intro migrated _
  have hscans := scans_createOrder (OrderRequest.validate_of_read hread) hname migrated fresh clock
  exact hscans.passed rfl

theorem create_of_nameless {request : OrderRequest} (hread : request.read = .ok fields)
    {name : String} (hname : Text.isBlank name = true) (hready : Migrates path disk migrated)
    (fresh : OrderId) (clock : Clock) :
    (create path request (.ok name) fresh clock disk).1 = .error nameless := by
  rw [OrderCall.create_apply, hread]
  simp only
  rw [onMigrated_of_migrates hready,
    createOrder_of_nameless (OrderRequest.validate_of_read hread) hname]
  rfl

/-- How a creation is told that its request is wrong, although nothing is wrong with the fields: by
whoever should know the caller, or for a blank name. -/
theorem create_blamed_iff {request : OrderRequest} (hread : request.read = .ok fields)
    (identity : Identity) (fresh : OrderId) (clock : Clock) {failure : Failure}
    (hkind : failure.kind = .validation) :
    (create path request identity fresh clock disk).1 = .error failure ↔
      identity = .error failure ∨
        failure = nameless ∧ (∃ name, identity = .ok name ∧ Text.isBlank name = true) ∧
          ∃ migrated, Migrates path disk migrated := by
  constructor
  · intro hfailed
    cases identity with
    | error unknown =>
        rw [OrderCall.create_apply, hread] at hfailed
        cases hfailed
        exact .inl rfl
    | ok name =>
        cases hname : Text.isBlank name with
        | false => exact absurd hkind (create_of_named hread hname fresh clock failure hfailed)
        | true =>
            -- The name is only looked at once the database is open and migrated.
            by_cases hready : ∃ migrated, Migrates path disk migrated
            · obtain ⟨migrated, hmigrates⟩ := hready
              rw [create_of_nameless hread hname hmigrates] at hfailed
              exact .inr
                ⟨(Except.error.inj hfailed).symm, ⟨name, rfl, hname⟩, migrated, hmigrates⟩
            · have hclosed : ∀ migrated, ¬ Migrates path disk migrated :=
                fun migrated hmigrates => hready ⟨migrated, hmigrates⟩
              rw [OrderCall.create_apply, hread] at hfailed
              exact absurd hkind (blameless_onMigrated_of_closed hclosed _ failure hfailed)
  · rintro (rfl | ⟨rfl, ⟨name, rfl, hname⟩, migrated, hmigrates⟩)
    · rw [OrderCall.create_apply, hread]
    · exact create_of_nameless hread hname hmigrates fresh clock

/-- The stored row of the order with an id, if there is one, is read. -/
def RowRead (path : String) (disk : Disk) (id : OrderId) : Prop :=
  ∀ migrated, Migrates path disk migrated → ∀ row ∈ migrated.rowWith id,
    ∃ order, row.toOrder = .ok order

theorem update_of_read {request : UpdateRequest} {id : OrderId}
    (hread : request.read = .ok (id, fields)) (clock : Clock) :
    update path request clock disk = onMigrated path (updateOrder id fields clock) disk := by
  rw [OrderCall.update_apply, hread]

theorem blameless_update {request : UpdateRequest} {id : OrderId}
    (hread : request.read = .ok (id, fields)) (hrow : RowRead path disk id) (clock : Clock) :
    Blameless (update path request clock disk).1 := by
  rw [update_of_read hread]
  apply blameless_onMigrated
  intro migrated hmigrates
  have hscans := scans_updateOrder (UpdateRequest.validate_of_read hread) migrated id clock
  apply hscans.passed
  rw [List.findSome?_eq_none_iff]
  intro stored hstored
  obtain ⟨row, hmem, rfl⟩ := List.mem_map.mp hstored
  exact Steps.error?_eq_none.mpr (hrow migrated hmigrates row hmem)

end Ending

/-- How a creation ends, by what is wrong with its request. -/
structure CreationJudged (path : String) (disk : Disk) (request : OrderRequest)
    (identity : Identity) (fresh : OrderId) (clock : Clock) : Prop where
  /-- All that is wrong is told in one error, and the files are left alone. -/
  refused : request.complaints ≠ [] → create path request identity fresh clock disk =
    (.error (.ofError (.validation request.complaints)), disk)
  /-- With nothing wrong the creation goes on, and the store accepts the fields. -/
  accepted : request.complaints = [] → ∃ fields, request.AsksFor fields ∧
    fields.validate = .ok () ∧ create path request identity fresh clock disk =
      (callerName identity >>= fun name =>
        onMigrated path (createOrder fields name fresh clock)) disk
  /-- The one mistake that is told later is a blank name, unless nobody knows the caller and that is
  said to be a mistake. -/
  later : request.complaints = [] → ∀ failure, failure.kind = .validation →
    ((create path request identity fresh clock disk).1 = .error failure ↔
      identity = .error failure ∨
        failure = nameless ∧ (∃ name, identity = .ok name ∧ Text.isBlank name = true) ∧
          ∃ migrated, Migrates path disk migrated)

/-- How a change ends, by what is wrong with its request. -/
structure ChangeJudged (path : String) (disk : Disk) (request : UpdateRequest) (clock : Clock) :
    Prop where
  /-- All that is wrong is told in one error, and the files are left alone. -/
  refused : request.complaints ≠ [] → update path request clock disk =
    (.error (.ofError (.validation request.complaints)), disk)
  /-- With nothing wrong the change goes on, the store accepts the fields, and no mistake is told
  later, unless the stored row is not read. -/
  accepted : request.complaints = [] → ∃ id fields, OrderId.parse request.id = some id ∧
    request.order.AsksFor fields ∧ fields.validate = .ok () ∧
    update path request clock disk = onMigrated path (updateOrder id fields clock) disk ∧
    (RowRead path disk id → Blameless (update path request clock disk).1)

/-- Requests to create and to change an order are judged as a whole before any file is looked at. -/
theorem requests_judged_in_full (path : String) (disk : Disk) :
    (∀ request identity fresh clock, CreationJudged path disk request identity fresh clock) ∧
      ∀ request clock, ChangeJudged path disk request clock := by
  constructor
  · intro request identity fresh clock
    refine ⟨fun hwrong => ?_, fun hright => ?_, fun hright failure hkind => ?_⟩
    · rw [← OrderRequest.issues_eq_complaints] at hwrong ⊢
      rw [OrderCall.create_apply, OrderRequest.read_of_issues hwrong]
    · obtain ⟨fields, hread, hasks⟩ := OrderRequest.read_of_complaints hright
      exact ⟨fields, hasks, OrderRequest.validate_of_read hread,
        create_of_read hread identity fresh clock⟩
    · obtain ⟨fields, hread, _⟩ := OrderRequest.read_of_complaints hright
      exact create_blamed_iff hread identity fresh clock hkind
  · intro request clock
    refine ⟨fun hwrong => ?_, fun hright => ?_⟩
    · rw [← UpdateRequest.issues_eq_complaints] at hwrong ⊢
      rw [OrderCall.update_apply, UpdateRequest.read_of_issues hwrong]
    · obtain ⟨id, fields, hread, hid, hasks⟩ := UpdateRequest.read_of_complaints hright
      exact ⟨id, fields, hid, hasks, UpdateRequest.validate_of_read hread,
        update_of_read hread clock, fun hrow => blameless_update hread hrow clock⟩

/-! ## Requests with more than one mistake, and with none -/

/-- A change of an order that is not named, with no field as it should be. -/
def mistakenRequest : UpdateRequest where
  id := "nope"
  order :=
    { effectiveFrom := none
      caseId := "79927398710"
      action := " "
      responsibleParty := "The Payment Team"
      orderReference := "" }

/-- Six mistakes are told in one error. A request without mistakes is refused for a blank name. -/
theorem requests_judged_in_full_mistaken :
    update "orders.db" mistakenRequest Sample.clock misnumberedDisk =
        (.error (.ofError (.validation
          [.malformedId "id" "nope", .required "effective_from",
            .caseIdLength "case_id" "79927398710", .caseIdChecksum "case_id" "79927398710",
            .required "action", .required "order_reference"])), misnumberedDisk) ∧
      (create "orders.db" firstRequest (.ok " ") Sample.firstId Sample.clock .empty).1 =
        .error nameless := by
  have hcomplaints : mistakenRequest.complaints =
      [.malformedId "id" "nope", .required "effective_from",
        .caseIdLength "case_id" "79927398710", .caseIdChecksum "case_id" "79927398710",
        .required "action", .required "order_reference"] := by
    decide +kernel
  have hfirst : firstRequest.complaints = [] := by decide +kernel
  have hchange := (requests_judged_in_full "orders.db" misnumberedDisk).2 mistakenRequest
    Sample.clock
  have hcreation := (requests_judged_in_full "orders.db" .empty).1 firstRequest (.ok " ")
    Sample.firstId Sample.clock
  have hopen : Disk.empty.openDatabase "orders.db" =
      .ok (⟨some ["orders.db"], some .empty, .blank, true, false⟩, .empty) := by
    decide +kernel
  constructor
  · rw [hchange.refused (by rw [hcomplaints]; exact List.cons_ne_nil _ _), hcomplaints]
  · exact (hcreation.later hfirst nameless rfl).mpr
      (.inr ⟨rfl, ⟨" ", rfl, by decide⟩, _, _, _, hopen, rfl⟩)

/-- A request to change the first order into what it is. -/
def sameRequest : UpdateRequest where
  id := Sample.firstId.toText
  order := firstRequest

/-- So judging does not have the last word on mistakes. A blank name is not told where the database
is of a later version, and a change of an order that is stored under a wrong case id is told a
mistake that is not in its request. -/
theorem judging_can_be_overruled :
    (¬ ∀ (path : String) (disk : Disk) (request : OrderRequest) (name : String) (fresh : OrderId)
        (clock : Clock), request.complaints = [] → Text.isBlank name = true →
        (create path request (.ok name) fresh clock disk).1 = .error nameless) ∧
      ¬ ∀ (path : String) (disk : Disk) (request : UpdateRequest) (clock : Clock)
        (failure : Failure), request.complaints = [] →
        (update path request clock disk).1 = .error failure → failure.kind ≠ .validation := by
  constructor
  · intro htold
    have hnewer : (create "orders.db" firstRequest (.ok " ") Sample.secondId Sample.clock
        unknownVersionDisk).1 = .error (.ofFault (.unsupportedVersion 2 1)) := by
      decide +kernel
    have hanswer := htold "orders.db" unknownVersionDisk firstRequest " " Sample.secondId
      Sample.clock (by decide +kernel) (by decide)
    rw [hnewer] at hanswer
    cases hanswer
  · intro hspared
    have hblamed : (update "orders.db" sameRequest Sample.clock misnumberedDisk).1 =
        .error ⟨[.readingCaseId 6551341964128976],
          .error (.validation [.caseIdChecksum "case_id" "6551341964128976"])⟩ := by
      decide +kernel
    exact hspared "orders.db" misnumberedDisk sameRequest Sample.clock _ (by decide +kernel)
      hblamed rfl

end Service

end PaymentOrders
