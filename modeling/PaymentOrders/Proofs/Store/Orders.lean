import PaymentOrders.Proofs.Store.Trail
/-!
# What creating and changing an order does

Every way in which a creation or a change can end on a database whose tables are there, each with
the database that it leaves. The pair is judged before the number of the revision, so a full
counter never hides a conflict.
-/

namespace PaymentOrders.Store

theorem satisfiesCheck_of_caseId {row : OrderRow} {caseId : CaseId}
    (h : row.caseId = caseId.number) : row.satisfiesCheck = true := by
  have hlt := caseId.number_lt
  have hle : caseId.number ≤ 9999999999999999 := Nat.le_of_lt_succ hlt
  simp only [OrderRow.satisfiesCheck, h, Bool.and_eq_true, decide_eq_true_eq]
  omega

/-- Some row has the case id and the order reference. -/
def Held (rows : List OrderRow) (caseId : CaseId) (orderReference : String) : Prop :=
  ∃ row ∈ rows, row.caseId = caseId.number ∧ row.orderReference = orderReference

theorem any_samePair {rows : List OrderRow} {row : OrderRow} {caseId : CaseId}
    (hcase : row.caseId = caseId.number) :
    rows.any row.samePair = true ↔ Held rows caseId row.orderReference := by
  simp only [Held, List.any_eq_true, OrderRow.samePair, Bool.and_eq_true, beq_iff_eq, hcase]
  constructor
  · rintro ⟨other, hmem, hsame, href⟩
    exact ⟨other, hmem, hsame.symm, href.symm⟩
  · rintro ⟨other, hmem, hsame, href⟩
    exact ⟨other, hmem, hsame.symm, href.symm⟩

/-! ## What the table of orders lets in -/

section Violation

variable {rows : List OrderRow} {row : OrderRow} {caseId : CaseId}

theorem violation?_of_held (hcase : row.caseId = caseId.number)
    (hheld : Held rows caseId row.orderReference) :
    row.violation? true rows = some .duplicatePair := by
  rw [OrderRow.violation?, satisfiesCheck_of_caseId hcase,
    if_neg (by decide), if_pos ((any_samePair hcase).mpr hheld)]

theorem violation?_of_used (hcase : row.caseId = caseId.number)
    (hfree : ¬ Held rows caseId row.orderReference) (hsome : row.id.isSome = true)
    (hused : ∃ other ∈ rows, other.id = row.id) :
    row.violation? true rows = some .duplicateKey := by
  have hany : rows.any (fun other => other.id == row.id) = true := by
    simpa [List.any_eq_true] using hused
  rw [OrderRow.violation?, satisfiesCheck_of_caseId hcase, if_neg (by decide),
    if_neg (mt (any_samePair hcase).mp hfree), hsome, hany]
  rfl

theorem violation?_of_free (hcase : row.caseId = caseId.number)
    (hfree : ¬ Held rows caseId row.orderReference) (hunused : ∀ other ∈ rows, other.id ≠ row.id) :
    row.violation? true rows = none := by
  have hany : rows.any (fun other => other.id == row.id) = false := by
    simpa [List.any_eq_false] using hunused
  rw [OrderRow.violation?, satisfiesCheck_of_caseId hcase, if_neg (by decide),
    if_neg (mt (any_samePair hcase).mp hfree), hany, Bool.and_false]
  rfl

end Violation

structure Database.Holds (db : Database) (rows : List OrderRow) (trail : Trail) : Prop where
  orders_eq : db.orders = some rows
  trail_eq : db.trail = some trail

/-! ## Creating -/

section Create

variable {db : Database} {rows : List OrderRow} {trail : Trail} {order : Order}

theorem insertOrder_of_violation {violation : Violation} (hrows : db.orders = some rows)
    (h : (OrderRow.ofOrder order).violation? true rows = some violation) :
    insertOrder order db =
      (.error (pairFailure order.fields .insertingOrder (rejected .orders violation)), db) := by
  apply Session.mapFailure_of_error
  apply Session.write_of_error
  rw [Database.orderRows, hrows]
  simp only [Steps.bind_ok, insertOrderRow, h, Steps.bind_error]

theorem insertOrder_of_accepted (hrows : db.orders = some rows)
    (h : (OrderRow.ofOrder order).violation? true rows = none) :
    insertOrder order db = (.ok (), db.withOrders (rows ++ [.ofOrder order])) := by
  apply Session.mapFailure_of_ok
  apply Session.write_of_ok
  rw [Database.orderRows, hrows]
  simp only [Steps.bind_ok, insertOrderRow, h]
  rfl

variable {fields : OrderFields} {createdBy : String} {fresh : OrderId} {clock : Clock}

theorem createOrder_of_invalid {error : OrderError} (hinvalid : fields.validate = .error error) :
    createOrder fields createdBy fresh clock db = (.error (.ofError error), db) := by
  rw [createOrder, Engine.createOrder, hinvalid]
  exact Steps.bind_of_error (Session.demand_error error db)

theorem createOrder_of_nameless (hvalid : fields.validate = .ok ())
    (hname : Text.isBlank createdBy = true) :
    createOrder fields createdBy fresh clock db = (.error (.ofError namelessCreator), db) := by
  rw [createOrder, Engine.createOrder, hvalid, Steps.bind_of_ok (Session.demand_ok () db),
    if_pos hname]
  exact Steps.bind_of_error (Session.demand_error namelessCreator db)

/-- Once fields and name are accepted, a creation is its transaction. -/
theorem createOrder_eq_transaction (hvalid : fields.validate = .ok ())
    (hname : Text.isBlank createdBy = false) :
    createOrder fields createdBy fresh clock db =
      Session.transaction (do
        insertOrder (Order.create fresh fields (clock 0) createdBy)
        let _ ← appendRevision .created (Order.create fresh fields (clock 0) createdBy) (clock 1)
        return Order.create fresh fields (clock 0) createdBy) db := by
  rw [createOrder, Engine.createOrder, hvalid, Steps.bind_of_ok (Session.demand_ok () db),
    if_neg (by simp [hname]), Steps.bind_of_ok (Session.demand_ok () db)]

theorem createOrder_of_held (hvalid : fields.validate = .ok ())
    (hname : Text.isBlank createdBy = false) (hrows : db.orders = some rows)
    (hheld : Held rows fields.caseId fields.orderReference) :
    createOrder fields createdBy fresh clock db =
      (.error (.ofError (pairTaken fields.caseId fields.orderReference)), db) := by
  let order := Order.create fresh fields (clock 0) createdBy
  have hviolation : (OrderRow.ofOrder order).violation? true rows = some .duplicatePair :=
    violation?_of_held rfl hheld
  rw [createOrder_eq_transaction hvalid hname]
  apply Session.transaction_of_error
  exact Steps.bind_of_error (insertOrder_of_violation hrows hviolation)

theorem createOrder_of_used (hvalid : fields.validate = .ok ())
    (hname : Text.isBlank createdBy = false) (hrows : db.orders = some rows)
    (hfree : ¬ Held rows fields.caseId fields.orderReference)
    (hused : ∃ row ∈ rows, row.id = some fresh.toText) :
    createOrder fields createdBy fresh clock db =
      (.error ((rejected .orders .duplicateKey).within .insertingOrder), db) := by
  let order := Order.create fresh fields (clock 0) createdBy
  have hviolation : (OrderRow.ofOrder order).violation? true rows = some .duplicateKey :=
    violation?_of_used rfl hfree rfl hused
  rw [createOrder_eq_transaction hvalid hname]
  apply Session.transaction_of_error
  exact Steps.bind_of_error (insertOrder_of_violation hrows hviolation)

theorem createOrder_of_full (hvalid : fields.validate = .ok ())
    (hname : Text.isBlank createdBy = false) (hdb : db.Holds rows trail)
    (hfree : ¬ Held rows fields.caseId fields.orderReference)
    (hunused : ∀ row ∈ rows, row.id ≠ some fresh.toText) (hfull : maxInteger < trail.next) :
    createOrder fields createdBy fresh clock db =
      (.error ((Failure.ofFault .counterExhausted).within (.appendingRevision .created fresh)),
        db) := by
  let order := Order.create fresh fields (clock 0) createdBy
  have hviolation : (OrderRow.ofOrder order).violation? true rows = none :=
    violation?_of_free rfl hfree hunused
  have htrail : (db.withOrders (rows ++ [.ofOrder order])).trail = some trail := hdb.trail_eq
  rw [createOrder_eq_transaction hvalid hname]
  apply Session.transaction_of_error
  rw [Steps.bind_of_ok (insertOrder_of_accepted hdb.orders_eq hviolation)]
  exact Steps.bind_of_error (appendRevision_of_full htrail hfull .created order (clock 1))

theorem createOrder_of_room (hvalid : fields.validate = .ok ())
    (hname : Text.isBlank createdBy = false) (hdb : db.Holds rows trail)
    (hfree : ¬ Held rows fields.caseId fields.orderReference)
    (hunused : ∀ row ∈ rows, row.id ≠ some fresh.toText) (hroom : trail.HasRoom 1) :
    createOrder fields createdBy fresh clock db =
      (.ok (Order.create fresh fields (clock 0) createdBy),
        (db.withOrders
            (rows ++ [.ofOrder (Order.create fresh fields (clock 0) createdBy)])).withTrail
          (trail.grown (.ofSnapshot trail.next .created (clock 1)
            (Order.create fresh fields (clock 0) createdBy)))) := by
  let order := Order.create fresh fields (clock 0) createdBy
  have hviolation : (OrderRow.ofOrder order).violation? true rows = none :=
    violation?_of_free rfl hfree hunused
  have htrail : (db.withOrders (rows ++ [.ofOrder order])).trail = some trail := hdb.trail_eq
  rw [createOrder_eq_transaction hvalid hname]
  apply Session.transaction_of_ok
  rw [Steps.bind_of_ok (insertOrder_of_accepted hdb.orders_eq hviolation)]
  exact Steps.bind_of_ok (appendRevision_of_room htrail hroom .created order (clock 1))

end Create

/-! ## Changing -/

def othersThan (id : OrderId) (rows : List OrderRow) : List OrderRow :=
  rows.filter fun row => row.id != some id.toText

def rowsWith (id : OrderId) (row : OrderRow) (rows : List OrderRow) : List OrderRow :=
  rows.map fun other => if other.id == some id.toText then row else other

section Update

variable {db : Database} {rows : List OrderRow} {trail : Trail} {id : OrderId} {row : OrderRow}
  {fields : OrderFields}

theorem findRow_apply (hrows : db.orders = some rows) (id : OrderId) :
    findRow id db = (.ok (rows.find? (OrderRow.hasId id)), db) := by
  rw [findRow, Session.read_apply, Database.orderRows, hrows]
  rfl

theorem id_of_find (hfound : rows.find? (OrderRow.hasId id) = some row) :
    row.id = some id.toText := by
  have hid := List.find?_some hfound
  rwa [OrderRow.hasId, beq_iff_eq] at hid

theorem replaceFields_of_held (hrows : db.orders = some rows) (hid : row.id = some id.toText)
    (hheld : Held (othersThan id rows) fields.caseId fields.orderReference) :
    replaceFields row fields db =
      (.error (.ofError (pairTaken fields.caseId fields.orderReference)), db) := by
  have hviolation : (row.withFields fields).violation? true (othersThan id rows) =
      some .duplicatePair := violation?_of_held rfl hheld
  have hfailed : replaceOrderRow (row.withFields fields) rows =
      .error (rejected .orders .duplicatePair) := by
    have hsame : (row.withFields fields).id = some id.toText := hid
    rw [replaceOrderRow, hsame]
    rw [othersThan] at hviolation
    rw [hviolation]
  have hconflict : pairFailure fields .updatingOrder (rejected .orders .duplicatePair) =
      .ofError (pairTaken fields.caseId fields.orderReference) := rfl
  rw [← hconflict]
  apply Session.mapFailure_of_error
  apply Session.write_of_error
  rw [Database.orderRows, hrows]
  simp only [Steps.bind_ok, hfailed, Steps.bind_error]

theorem replaceFields_of_free (hrows : db.orders = some rows) (hid : row.id = some id.toText)
    (hfree : ¬ Held (othersThan id rows) fields.caseId fields.orderReference) :
    replaceFields row fields db =
      (.ok (), db.withOrders (rowsWith id (row.withFields fields) rows)) := by
  have hsame : (row.withFields fields).id = some id.toText := hid
  have hunused : ∀ other ∈ othersThan id rows, other.id ≠ (row.withFields fields).id := by
    intro other hother
    rw [hsame]
    simpa using (List.mem_filter.mp hother).2
  have hviolation : (row.withFields fields).violation? true (othersThan id rows) = none :=
    violation?_of_free rfl hfree hunused
  have hchanged : replaceOrderRow (row.withFields fields) rows =
      .ok (rowsWith id (row.withFields fields) rows) := by
    rw [replaceOrderRow, hsame]
    rw [othersThan] at hviolation
    rw [hviolation, rowsWith]
  apply Session.mapFailure_of_ok
  apply Session.write_of_ok
  rw [Database.orderRows, hrows]
  simp only [Steps.bind_ok, hchanged]
  rfl

variable {clock : Clock} {order : Order}

theorem updateOrder_of_invalid {error : OrderError} (hinvalid : fields.validate = .error error) :
    updateOrder id fields clock db = (.error (.ofError error), db) := by
  rw [updateOrder, Engine.updateOrder, hinvalid]
  exact Steps.bind_of_error (Session.demand_error error db)

/-- Once the fields are accepted, a change is its transaction. -/
theorem updateOrder_eq_transaction (hvalid : fields.validate = .ok ()) :
    updateOrder id fields clock db =
      Session.transaction (do
        match ← findRow id with
        | none => Session.fail (.ofError (.notFound .id id.toText))
        | some row =>
            let order ← Session.read fun _ => row.toOrder
            replaceFields row fields
            let _ ← appendRevision .modified (order.apply fields) (clock 0)
            return order.apply fields) db := by
  rw [updateOrder, Engine.updateOrder, hvalid]
  exact Steps.bind_of_ok (Session.demand_ok () db)

theorem updateOrder_of_unknown (hvalid : fields.validate = .ok ()) (hrows : db.orders = some rows)
    (hunknown : rows.find? (OrderRow.hasId id) = none) :
    updateOrder id fields clock db = (.error (.ofError (.notFound .id id.toText)), db) := by
  rw [updateOrder_eq_transaction hvalid]
  apply Session.transaction_of_error
  rw [Steps.bind_of_ok (findRow_apply hrows id), hunknown]
  rfl

theorem updateOrder_of_held (hvalid : fields.validate = .ok ()) (hrows : db.orders = some rows)
    (hfound : rows.find? (OrderRow.hasId id) = some row) (horder : row.toOrder = .ok order)
    (hheld : Held (othersThan id rows) fields.caseId fields.orderReference) :
    updateOrder id fields clock db =
      (.error (.ofError (pairTaken fields.caseId fields.orderReference)), db) := by
  rw [updateOrder_eq_transaction hvalid]
  apply Session.transaction_of_error
  rw [Steps.bind_of_ok (findRow_apply hrows id), hfound]
  have hread : (Session.read fun _ => row.toOrder) db = (.ok order, db) := by
    rw [Session.read_apply, horder]
  simp only
  rw [Steps.bind_of_ok hread]
  exact Steps.bind_of_error (replaceFields_of_held hrows (id_of_find hfound) hheld)

/-- A change whose pair is free comes down to its revision. -/
theorem updateOrder_of_free (hvalid : fields.validate = .ok ()) (hrows : db.orders = some rows)
    (hfound : rows.find? (OrderRow.hasId id) = some row) (horder : row.toOrder = .ok order)
    (hfree : ¬ Held (othersThan id rows) fields.caseId fields.orderReference)
    {answer : Except Failure Int} {after : Database}
    (happend : appendRevision .modified (order.apply fields) (clock 0)
      (db.withOrders (rowsWith id (row.withFields fields) rows)) = (answer, after)) :
    updateOrder id fields clock db =
      match answer with
      | .ok _ => (.ok (order.apply fields), after)
      | .error failure => (.error failure, db) := by
  have hread : (Session.read fun _ => row.toOrder) db = (.ok order, db) := by
    rw [Session.read_apply, horder]
  have hreplace := replaceFields_of_free hrows (id_of_find hfound) hfree
  rw [updateOrder_eq_transaction hvalid]
  cases answer with
  | ok number =>
      apply Session.transaction_of_ok
      rw [Steps.bind_of_ok (findRow_apply hrows id), hfound]
      simp only
      rw [Steps.bind_of_ok hread, Steps.bind_of_ok hreplace]
      exact Steps.bind_of_ok happend
  | error failure =>
      apply Session.transaction_of_error
      rw [Steps.bind_of_ok (findRow_apply hrows id), hfound]
      simp only
      rw [Steps.bind_of_ok hread, Steps.bind_of_ok hreplace]
      exact Steps.bind_of_error happend

theorem updateOrder_of_full (hvalid : fields.validate = .ok ()) (hdb : db.Holds rows trail)
    (hfound : rows.find? (OrderRow.hasId id) = some row) (horder : row.toOrder = .ok order)
    (hfree : ¬ Held (othersThan id rows) fields.caseId fields.orderReference)
    (hfull : maxInteger < trail.next) :
    updateOrder id fields clock db =
      (.error ((Failure.ofFault .counterExhausted).within (.appendingRevision .modified order.id)),
        db) := by
  have htrail : (db.withOrders (rowsWith id (row.withFields fields) rows)).trail = some trail :=
    hdb.trail_eq
  exact updateOrder_of_free hvalid hdb.orders_eq hfound horder hfree
    (appendRevision_of_full htrail hfull .modified (order.apply fields) (clock 0))

theorem updateOrder_of_room (hvalid : fields.validate = .ok ()) (hdb : db.Holds rows trail)
    (hfound : rows.find? (OrderRow.hasId id) = some row) (horder : row.toOrder = .ok order)
    (hfree : ¬ Held (othersThan id rows) fields.caseId fields.orderReference)
    (hroom : trail.HasRoom 1) :
    updateOrder id fields clock db =
      (.ok (order.apply fields),
        (db.withOrders (rowsWith id (row.withFields fields) rows)).withTrail
          (trail.grown (.ofSnapshot trail.next .modified (clock 0) (order.apply fields)))) := by
  have htrail : (db.withOrders (rowsWith id (row.withFields fields) rows)).trail = some trail :=
    hdb.trail_eq
  exact updateOrder_of_free hvalid hdb.orders_eq hfound horder hfree
    (appendRevision_of_room htrail hroom .modified (order.apply fields) (clock 0))

end Update

end PaymentOrders.Store
