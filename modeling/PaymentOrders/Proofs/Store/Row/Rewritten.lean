import PaymentOrders.Proofs.Store.Orders
/-!
# Rows that are written again

Any row that can be read, canonical or not, means one order. Written again it is spelled in the one
canonical way, column for column, and means the same order; so do the tables that it is put into.
-/

namespace PaymentOrders.Store

/-- The row with its id and its timestamps in the canonical spelling of an order's. -/
def OrderRow.respelled (row : OrderRow) (order : Order) : OrderRow :=
  { row with
    id := some order.id.toText
    effectiveFrom := order.effectiveFrom.toText
    createdTimestamp := order.createdTimestamp.toText }

/-- The row under another number and timestamp, with its id and the timestamps of its order in the
canonical spelling of an order's. -/
def RevisionRow.respelled (row : RevisionRow) (number : Int) (time : Timestamp) (order : Order) :
    RevisionRow :=
  { row with
    number
    recordId := order.id.toText
    timestamp := time.toText
    effectiveFrom := some order.effectiveFrom.toText
    createdTimestamp := some order.createdTimestamp.toText }

theorem OrderRow.Tells.ofOrder_eq {row : OrderRow} {order : Order} (h : row.Tells order) :
    ofOrder order = row.respelled order := by
  have hcase : row.caseId = order.caseId.number := (number_of_readCaseId h.caseId).symm
  simp only [ofOrder, respelled, hcase, h.orderReference, h.action, h.responsibleParty,
    h.createdBy]

theorem RevisionRow.Keeps.ofSnapshot_eq {row : RevisionRow} {order : Order} (h : row.Keeps order)
    {change : ChangeType} (hchange : row.changeType = change.name) (number : Int)
    (time : Timestamp) :
    ofSnapshot number change time order = row.respelled number time order := by
  obtain ⟨raw, hraw, hcase⟩ := h.caseId
  have hnumber : row.caseId = some (order.caseId.number : Int) := by
    rw [hraw, number_of_readCaseId hcase]
  simp only [ofSnapshot, respelled, hchange, hnumber, h.orderReference, h.action,
    h.responsibleParty, h.createdBy]

/-- An order that is put into the table is found again. -/
theorem getOrder_insertOrder {db : Database} {rows : List OrderRow} {order : Order}
    (hrows : db.orders = some rows) (hfree : ¬ Held rows order.caseId order.orderReference)
    (hunused : ∀ other ∈ rows, other.id ≠ some order.id.toText) :
    ∃ after, insertOrder order db = (.ok (), after) ∧
      getOrder order.id after = (.ok (some order), after) := by
  have haccepted : (OrderRow.ofOrder order).violation? true rows = none :=
    violation?_of_free rfl hfree hunused
  have hnone : rows.find? (OrderRow.hasId order.id) = none := by
    rw [List.find?_eq_none]
    intro other hother
    rw [OrderRow.hasId, beq_iff_eq]
    exact hunused other hother
  have hfind : (rows ++ [OrderRow.ofOrder order]).find? (OrderRow.hasId order.id) =
      some (OrderRow.ofOrder order) := by
    rw [List.find?_append, hnone, Option.none_or]
    exact List.find?_cons_of_pos (by simp)
  refine ⟨_, insertOrder_of_accepted hrows haccepted, ?_⟩
  have hfound := findRow_apply (db.orders_withOrders (rows ++ [.ofOrder order])) order.id
  rw [hfind] at hfound
  rw [getOrder, Steps.bind_of_ok hfound]
  simp only [Session.read_apply, OrderRow.toOrder_ofOrder]
  rfl

/-- What the row of an order comes to when the order is written again. -/
structure OrderRow.Rewritten (row : OrderRow) (order : Order) : Prop where
  spelled : ofOrder order = row.respelled order
  read : (ofOrder order).toOrder = .ok order
  stored : ∀ (db : Database) (rows : List OrderRow), db.orders = some rows →
    ¬ Held rows order.caseId order.orderReference →
    (∀ other ∈ rows, other.id ≠ some order.id.toText) →
    ∃ after, insertOrder order db = (.ok (), after) ∧
      getOrder order.id after = (.ok (some order), after)

/-- What the row of a revision comes to when its order is written again as the same change. -/
structure RevisionRow.Rewritten (row : RevisionRow) (revision : Revision) (order : Order) :
    Prop where
  same : order.id = revision.recordId
  spelled : ∀ number time,
    ofSnapshot number revision.changeType time order = row.respelled number time order
  read : ∀ number time, (ofSnapshot number revision.changeType time order).toRevision =
    .ok ⟨number, revision.recordId, revision.changeType, time, some order⟩
  stored : ∀ (db : Database) (trail : Trail) (time : Timestamp), db.trail = some trail →
    trail.HasRoom 1 →
    ∃ (number : Int) (written : RevisionRow) (counter : Option Nat),
      appendRevision revision.changeType order time db =
        (.ok number, db.withTrail ⟨trail.rows ++ [written], counter⟩) ∧
      written.toRevision =
        .ok ⟨number, revision.recordId, revision.changeType, time, some order⟩

/-- Whatever spelling a row is read from, writing what it means spells it in the canonical way and
means the same. In particular a timestamp is read back with its local time and its offset, and the
number of a case id is one that a table holds. -/
theorem rewritten_rows_read_the_same :
    (∀ (row : OrderRow) (order : Order), row.toOrder = .ok order → row.Rewritten order) ∧
      (∀ (row : RevisionRow) (revision : Revision) (order : Order),
        row.toRevision = .ok revision → revision.snapshot = some order →
          row.Rewritten revision order) ∧
      (∀ t : Timestamp, readTimestamp t.toText = .ok t) ∧
      (∀ caseId : CaseId, (caseId.number : Int) ≤ maxInteger ∧
        readCaseId (caseId.number : Int) = .ok caseId) := by
  refine ⟨fun row order hread => ?_, fun row revision order hread hwhole => ?_,
    readTimestamp_toText, fun caseId => ⟨?_, readCaseId_number caseId⟩⟩
  · have htells := OrderRow.toOrder_eq_ok.mp hread
    exact ⟨htells.ofOrder_eq, OrderRow.toOrder_ofOrder order,
      fun db rows hrows hfree hunused => getOrder_insertOrder hrows hfree hunused⟩
  · obtain ⟨hkeeps, hid, _, hchange⟩ := RevisionRow.keeps_of_toRevision hread hwhole
    refine ⟨hid, hkeeps.ofSnapshot_eq hchange, fun number time => ?_,
      fun db trail time htrail hroom => ?_⟩
    · rw [RevisionRow.toRevision_ofSnapshot, hid]
    · refine ⟨_, _, _, appendRevision_of_room htrail hroom revision.changeType order time, ?_⟩
      rw [RevisionRow.toRevision_ofSnapshot, hid]
  · have hlt := caseId.number_lt
    have hle : caseId.number ≤ 9999999999999999 := Nat.le_of_lt_succ hlt
    simp only [maxInteger]
    omega

/-! ## A planted row -/

namespace Sample

/-- An order of a leap second, under an id that is written in lower case and counts beyond its 128
bits. -/
def plantedRow : OrderRow where
  id := some "8zzzzzzzzzzzzzzzzzzzzzzzzz"
  caseId := 6551341964128977
  orderReference := " 2016/1"
  action := "Seeded"
  responsibleParty := "Seeder"
  effectiveFrom := "2016-12-31t18:29:60.1234567891-05:30"
  createdTimestamp := "2014-12-31 23:59:59.5000+00:00"
  createdBy := "seed"

/-- A deletion of that order, told before it was effective. -/
def plantedRevision : RevisionRow where
  number := -3
  recordId := "8zzzzzzzzzzzzzzzzzzzzzzzzz"
  changeType := "deleted"
  timestamp := "2015-01-01T00:00:00z"
  caseId := some 6551341964128977
  orderReference := some " 2016/1"
  action := some "Seeded"
  responsibleParty := some "Seeder"
  effectiveFrom := some "2016-12-31t18:29:60.1234567891-05:30"
  createdTimestamp := some "2014-12-31 23:59:59.5000+00:00"
  createdBy := some "seed"

end Sample

theorem rewritten_rows_read_the_same_planted :
    ∃ order revision, Sample.plantedRow.toOrder = .ok order ∧
      (OrderRow.ofOrder order).toOrder = .ok order ∧
      OrderRow.ofOrder order = { Sample.plantedRow with
        id := some "0ZZZZZZZZZZZZZZZZZZZZZZZZZ"
        effectiveFrom := "2016-12-31T18:29:59.999999999-05:30"
        createdTimestamp := "2014-12-31T23:59:59.5Z" } ∧
      Sample.plantedRevision.toRevision = .ok revision ∧ revision.snapshot = some order ∧
      (RevisionRow.ofSnapshot 1 revision.changeType revision.timestamp order).toRevision =
        .ok { revision with number := 1 } := by
  let effectiveFrom : Timestamp := {
    year := 2016, month := 12, day := 31, hour := 18, minute := 29, second := 59
    nanosecond := 999999999, offset := -330
    year_le := by decide, one_le_month := by decide, month_le := by decide
    one_le_day := by decide, day_le := by decide, hour_le := by decide, minute_le := by decide
    second_le := by decide, nanosecond_lt := by decide, offset_le := by decide }
  let created : Timestamp := {
    year := 2014, month := 12, day := 31, hour := 23, minute := 59, second := 59
    nanosecond := 500000000, offset := 0
    year_le := by decide, one_le_month := by decide, month_le := by decide
    one_le_day := by decide, day_le := by decide, hour_le := by decide, minute_le := by decide
    second_le := by decide, nanosecond_lt := by decide, offset_le := by decide }
  let told : Timestamp := {
    year := 2015, month := 1, day := 1, hour := 0, minute := 0, second := 0
    nanosecond := 0, offset := 0
    year_le := by decide, one_le_month := by decide, month_le := by decide
    one_le_day := by decide, day_le := by decide, hour_le := by decide, minute_le := by decide
    second_le := by decide, nanosecond_lt := by decide, offset_le := by decide }
  let order : Order := {
    id := ⟨42535295865117307932921825928971026431, by decide⟩
    caseId := ⟨6551341964128977, by decide⟩
    orderReference := " 2016/1", action := "Seeded", responsibleParty := "Seeder"
    effectiveFrom, createdTimestamp := created, createdBy := "seed" }
  let revision : Revision := ⟨-3, order.id, .deleted, told, some order⟩
  have hread : Sample.plantedRow.toOrder = .ok order := by decide +kernel
  have htold : Sample.plantedRevision.toRevision = .ok revision := by decide +kernel
  obtain ⟨horders, hrevisions, _, _⟩ := rewritten_rows_read_the_same
  obtain ⟨hspelled, hsame, _⟩ := horders Sample.plantedRow order hread
  obtain ⟨_, _, hagain, _⟩ := hrevisions Sample.plantedRevision revision order htold rfl
  refine ⟨order, revision, hread, hsame, hspelled.trans ?_, htold, rfl, hagain 1 told⟩
  decide +kernel

end PaymentOrders.Store
