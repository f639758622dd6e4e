import PaymentOrders.Proofs.Store.Deletion
/-!
# What a call that succeeds writes

Every way in which a call can succeed, each with the tables that it leaves, whatever they held
before. Of the live orders only those that the call reads have to be ones.
-/

namespace PaymentOrders.Store

section Statements

variable {db after : Database} {rows : List OrderRow} {trail : Trail}

theorem appendRevision_of_ok (htrail : db.trail = some trail) {change : ChangeType}
    {order : Order} {time : Timestamp} {number : Int}
    (h : appendRevision change order time db = (.ok number, after)) :
    number = trail.next ∧
      after = db.withTrail (trail.grown (.ofSnapshot trail.next change time order)) := by
  have hwrite := Session.write_eq_ok.mp (Session.mapFailure_eq_ok.mp h)
  rw [Database.theTrail, htrail, Steps.bind_ok] at hwrite
  obtain ⟨next, hnext, hwrite⟩ := Steps.bind_eq_ok.mp hwrite
  obtain ⟨grown, hgrown, hwrite⟩ := Steps.bind_eq_ok.mp hwrite
  cases hwrite
  have hnumber : number = trail.next := by
    unfold Trail.nextNumber at hnext
    split at hnext
    · exact (Except.ok.inj hnext).symm
    · cases hnext
  subst hnumber
  rw [Trail.insert_next] at hgrown
  cases hgrown
  exact ⟨rfl, rfl⟩

theorem insertOrder_of_ok (hrows : db.orders = some rows) {order : Order}
    (h : insertOrder order db = (.ok (), after)) :
    after = db.withOrders (rows ++ [.ofOrder order]) := by
  have hwrite := Session.write_eq_ok.mp (Session.mapFailure_eq_ok.mp h)
  rw [Database.orderRows, hrows, Steps.bind_ok] at hwrite
  obtain ⟨grown, hgrown, hwrite⟩ := Steps.bind_eq_ok.mp hwrite
  cases hwrite
  unfold insertOrderRow at hgrown
  split at hgrown
  · cases hgrown
    rfl
  · cases hgrown

theorem replaceFields_of_ok (hrows : db.orders = some rows) {row : OrderRow} {id : OrderId}
    (hid : row.id = some id.toText) {fields : OrderFields}
    (h : replaceFields row fields db = (.ok (), after)) :
    after = db.withOrders (rowsWith id (row.withFields fields) rows) := by
  have hwrite := Session.write_eq_ok.mp (Session.mapFailure_eq_ok.mp h)
  rw [Database.orderRows, hrows, Steps.bind_ok] at hwrite
  obtain ⟨changed, hchanged, hwrite⟩ := Steps.bind_eq_ok.mp hwrite
  cases hwrite
  have hsame : (row.withFields fields).id = some id.toText := hid
  unfold replaceOrderRow at hchanged
  split at hchanged
  · cases hchanged
    rw [hsame]
    rfl
  · cases hchanged

theorem appendDeleted_of_ok (htrail : db.trail = some trail) {clock : Clock} {i : Nat}
    {orders : List Order} (h : appendDeleted clock i orders db = (.ok (), after)) :
    after = db.withTrail (trail.buried clock i orders) := by
  induction orders generalizing db trail i with
  | nil =>
      cases h
      rw [Trail.buried, Database.withTrail, ← htrail]
  | cons order orders ih =>
      obtain ⟨number, between, happend, hrest⟩ := Steps.bind_apply_eq_ok.mp h
      obtain ⟨_, hbetween⟩ := appendRevision_of_ok htrail happend
      subst hbetween
      exact ih (Database.trail_withTrail ..) hrest

def ReadAs (filter : OrderFilter) (rows : List OrderRow) (orders : List Order) : Prop :=
  List.Forall₂ (fun row order => row.toOrder = .ok order)
    (inOrder (rows.filter (OrderRow.isSelected filter))) orders

theorem ReadAs.exists_order {filter : OrderFilter} {orders : List Order}
    (hread : ReadAs filter rows orders) {row : OrderRow} (hrow : row ∈ rows)
    (hselected : row.isSelected filter = true) : ∃ order ∈ orders, row.toOrder = .ok order := by
  apply Steps.exists_of_forall₂ hread
  rw [inOrder, (List.mergeSort_perm _ _).mem_iff, List.mem_filter]
  exact ⟨hrow, hselected⟩

theorem ReadAs.exists_row {filter : OrderFilter} {orders : List Order}
    (hread : ReadAs filter rows orders) {order : Order} (horder : order ∈ orders) :
    ∃ row ∈ rows, row.isSelected filter = true ∧ row.toOrder = .ok order := by
  obtain ⟨row, hrow, htoOrder⟩ := Steps.exists_of_forall₂ (List.Forall₂.flip hread) horder
  rw [inOrder, (List.mergeSort_perm _ _).mem_iff, List.mem_filter] at hrow
  exact ⟨row, hrow.1, hrow.2, htoOrder⟩

theorem removeSelected_of_ok (hdb : db.Holds rows trail) {filter : OrderFilter} {clock : Clock}
    {removed : List Order} (h : removeSelected filter clock db = (.ok removed, after)) :
    ReadAs filter rows removed ∧
      after = (db.withTrail (trail.buried clock 0 removed)).withOrders
        (sparedRows filter rows) := by
  obtain ⟨matched, _, hmatch, hrest⟩ := Steps.bind_apply_eq_ok.mp h
  rw [Session.statement_engine] at hmatch
  obtain ⟨hread, rfl⟩ := Session.read_eq_ok.mp hmatch
  rw [selectedRows, Database.orderRows, hdb.orders_eq] at hread
  obtain ⟨_, buried, happend, hdropped⟩ := Steps.bind_apply_eq_ok.mp hrest
  have hburied : buried = db.withTrail (trail.buried clock 0 matched) :=
    appendDeleted_of_ok hdb.trail_eq happend
  have hrows : buried.orders = some rows := by
    rw [hburied, Database.orders_withTrail, hdb.orders_eq]
  rw [Steps.bind_of_ok (dropSelected_of_rows hrows filter)] at hdropped
  split at hdropped
  · cases hdropped
    exact ⟨Steps.mapM_eq_ok.mp hread, by rw [hburied]⟩
  · cases hdropped

end Statements

/-- What a call writes that succeeds on some tables, and what it answers. -/
inductive Writes (rows : List OrderRow) (trail : Trail) :
    Mutation → Answer → List OrderRow → Trail → Prop
  | create {fields : OrderFields} {createdBy : String} {fresh : OrderId} {clock : Clock}
      {order : Order} (hvalid : fields.validate = .ok ())
      (horder : order = Order.create fresh fields (clock 0) createdBy) :
      Writes rows trail (.create fields createdBy fresh clock) (.created order)
        (rows ++ [.ofOrder order])
        (trail.grown (.ofSnapshot trail.next .created (clock 1) order))
  | update {id : OrderId} {fields : OrderFields} {clock : Clock} {row : OrderRow} {order : Order}
      (hvalid : fields.validate = .ok ()) (hfound : rows.find? (OrderRow.hasId id) = some row)
      (hread : row.toOrder = .ok order) :
      Writes rows trail (.update id fields clock) (.modified (order.apply fields))
        (rowsWith id (row.withFields fields) rows)
        (trail.grown (.ofSnapshot trail.next .modified (clock 0) (order.apply fields)))
  | delete {request : DeleteRequest} {filter : OrderFilter} {clock : Clock}
      {removed : List Order} {summary : DeletionSummary} {buried : Trail}
      (hresolve : OrderFilter.resolve request.ids request.caseIds = .ok filter)
      (hread : ReadAs filter rows removed) (hmissing : missingKeys filter removed = [])
      (hburied : buried = trail.buried clock 0 removed)
      (hcount : summary.recordsDeleted = removed.length) :
      Writes rows trail (.delete request clock) (.deleted summary) (sparedRows filter rows)
        (buried.purge (purges filter (sparedRows filter rows) buried))

section Calls

variable {db after : Database} {rows : List OrderRow} {trail : Trail}

theorem writes_createOrder (hdb : db.Holds rows trail) {fields : OrderFields}
    {createdBy : String} {fresh : OrderId} {clock : Clock} {order : Order}
    (h : createOrder fields createdBy fresh clock db = (.ok order, after)) :
    ∃ rows' trail', after = (db.withOrders rows').withTrail trail' ∧
      Writes rows trail (.create fields createdBy fresh clock) (.created order) rows' trail' := by
  obtain ⟨_, _, hdemand, hnamed⟩ := Steps.bind_apply_eq_ok.mp h
  obtain ⟨hvalid, rfl⟩ := Session.demand_eq_ok.mp hdemand
  obtain ⟨_, _, hname, hwrite⟩ := Steps.bind_apply_eq_ok.mp hnamed
  obtain ⟨_, rfl⟩ := Session.demand_eq_ok.mp hname
  obtain ⟨_, grown, hinsert, hrecord⟩ :=
    Steps.bind_apply_eq_ok.mp (Session.transaction_eq_ok.mp hwrite)
  have hgrown := insertOrder_of_ok hdb.orders_eq hinsert
  obtain ⟨_, _, happend, hanswer⟩ := Steps.bind_apply_eq_ok.mp hrecord
  have htrail : grown.trail = some trail := by
    rw [hgrown, Database.trail_withOrders, hdb.trail_eq]
  obtain ⟨_, hafter⟩ := appendRevision_of_ok htrail happend
  cases hanswer
  rw [hgrown] at hafter
  exact ⟨_, _, hafter, .create hvalid rfl⟩

theorem writes_updateOrder (hdb : db.Holds rows trail) {id : OrderId} {fields : OrderFields}
    {clock : Clock} {order : Order} (h : updateOrder id fields clock db = (.ok order, after)) :
    ∃ rows' trail', after = (db.withOrders rows').withTrail trail' ∧
      Writes rows trail (.update id fields clock) (.modified order) rows' trail' := by
  obtain ⟨_, _, hdemand, hwrite⟩ := Steps.bind_apply_eq_ok.mp h
  obtain ⟨hvalid, rfl⟩ := Session.demand_eq_ok.mp hdemand
  have hchange := Session.transaction_eq_ok.mp hwrite
  rw [Steps.bind_of_ok (findRow_apply hdb.orders_eq id)] at hchange
  cases hfound : rows.find? (OrderRow.hasId id) with
  | none =>
      rw [hfound] at hchange
      cases hchange
  | some row =>
      rw [hfound] at hchange
      obtain ⟨old, _, hold, hrest⟩ := Steps.bind_apply_eq_ok.mp hchange
      rw [Session.statement_engine] at hold
      obtain ⟨hread, rfl⟩ := Session.read_eq_ok.mp hold
      obtain ⟨_, changed, hreplace, hrecord⟩ := Steps.bind_apply_eq_ok.mp hrest
      have hchanged := replaceFields_of_ok hdb.orders_eq (id_of_find hfound) hreplace
      obtain ⟨_, _, happend, hanswer⟩ := Steps.bind_apply_eq_ok.mp hrecord
      have htrail : changed.trail = some trail := by
        rw [hchanged, Database.trail_withOrders, hdb.trail_eq]
      obtain ⟨_, hafter⟩ := appendRevision_of_ok htrail happend
      cases hanswer
      rw [hchanged] at hafter
      exact ⟨_, _, hafter, .update hvalid hfound hread⟩

theorem writes_deleteOrders (hdb : db.Holds rows trail) {request : DeleteRequest} {clock : Clock}
    {summary : DeletionSummary} (h : deleteOrders request clock db = (.ok summary, after)) :
    ∃ rows' trail', after = (db.withOrders rows').withTrail trail' ∧
      Writes rows trail (.delete request clock) (.deleted summary) rows' trail' := by
  obtain ⟨filter, _, hfilter, hselected⟩ := Steps.bind_apply_eq_ok.mp h
  obtain ⟨hresolve, rfl⟩ := Session.demand_eq_ok.mp hfilter
  have hkeys := (OrderFilter.keys_of_resolve hresolve).1
  rw [Engine.deleteSelected, if_neg (by simp [hkeys])] at hselected
  obtain ⟨removed, left, hremove, hpurged⟩ :=
    Steps.bind_apply_eq_ok.mp (Session.transaction_eq_ok.mp hselected)
  obtain ⟨hread, hleft⟩ := removeSelected_of_ok hdb hremove
  cases hmissing : missingKeys filter removed with
  | cons key keys =>
      rw [hmissing] at hpurged
      cases hpurged
  | nil =>
      have hrows : left.orders = some (sparedRows filter rows) := by
        rw [hleft, Database.orders_withOrders]
      have htrail : left.trail = some (trail.buried clock 0 removed) := by
        rw [hleft, Database.trail_withOrders, Database.trail_withTrail]
      rw [hmissing] at hpurged
      simp only at hpurged
      rw [Steps.bind_of_ok (purgeSelected_apply hrows htrail filter)] at hpurged
      cases hpurged
      exact ⟨_, _, by rw [hleft]; rfl, .delete hresolve hread hmissing rfl rfl⟩

theorem writes_of_perform (hdb : db.Holds rows trail) {call : Mutation} {answer : Answer}
    (h : call.perform db = (.ok answer, after)) :
    ∃ rows' trail', after = (db.withOrders rows').withTrail trail' ∧
      Writes rows trail call answer rows' trail' := by
  cases call with
  | create fields createdBy fresh clock =>
      obtain ⟨order, hcreate, rfl⟩ := Steps.map_apply_eq_ok.mp h
      exact writes_createOrder hdb hcreate
  | update id fields clock =>
      obtain ⟨order, hupdate, rfl⟩ := Steps.map_apply_eq_ok.mp h
      exact writes_updateOrder hdb hupdate
  | delete request clock =>
      obtain ⟨summary, hdelete, rfl⟩ := Steps.map_apply_eq_ok.mp h
      exact writes_deleteOrders hdb hdelete

end Calls

end PaymentOrders.Store
