import PaymentOrders.Proofs.Store.History
/-!
# Pairs of live orders

No two live orders share a case id and an order reference. A call that would make them share a
pair is a conflict, and no other call is one: what else can stop a call with valid fields is a
missing order or a counter without a next number.
-/

namespace PaymentOrders.Store

/-- How a call ends that gives an order a pair: a conflict if another order holds the pair, else
the order as long as there is a number for its revision. -/
structure Settled (answer : Except Failure Order) (order : Order) (held room : Prop) : Prop where
  conflict_iff : FailsAs answer .conflict ↔ held
  ok_iff : answer = .ok order ↔ ¬ held ∧ room
  fatal_iff : FailsAs answer .fatal ↔ ¬ held ∧ ¬ room

namespace Settled

variable {answer : Except Failure Order} {order : Order} {held room : Prop}

theorem of_failure {failure : Failure} {kind : ErrorKind} (h : answer = .error failure) :
    FailsAs answer kind ↔ failure.kind = kind := by
  constructor
  · rintro ⟨found, hfound, hkind⟩
    rw [h] at hfound
    cases hfound
    exact hkind
  · intro hkind
    exact ⟨failure, h, hkind⟩

theorem of_held {failure : Failure} (h : answer = .error failure)
    (hkind : failure.kind = .conflict) (hheld : held) : Settled answer order held room where
  conflict_iff := iff_of_true ((of_failure h).mpr hkind) hheld
  ok_iff := by
    refine iff_of_false ?_ (fun hfree => hfree.1 hheld)
    rw [h]
    intro hok
    cases hok
  fatal_iff := by
    refine iff_of_false ?_ (fun hfree => hfree.1 hheld)
    rw [of_failure h, hkind]
    intro hsame
    cases hsame

theorem of_full {failure : Failure} (h : answer = .error failure)
    (hkind : failure.kind = .fatal) (hfree : ¬ held) (hfull : ¬ room) :
    Settled answer order held room where
  conflict_iff := by
    refine iff_of_false ?_ hfree
    rw [of_failure h, hkind]
    intro hsame
    cases hsame
  ok_iff := by
    refine iff_of_false ?_ (fun hroom => hfull hroom.2)
    rw [h]
    intro hok
    cases hok
  fatal_iff := iff_of_true ((of_failure h).mpr hkind) ⟨hfree, hfull⟩

theorem of_room (h : answer = .ok order) (hfree : ¬ held) (hroom : room) :
    Settled answer order held room where
  conflict_iff := by
    refine iff_of_false ?_ hfree
    rintro ⟨failure, hfailure, _⟩
    rw [h] at hfailure
    cases hfailure
  ok_iff := iff_of_true h ⟨hfree, hroom⟩
  fatal_iff := by
    refine iff_of_false ?_ (fun hfull => hfull.2 hroom)
    rintro ⟨failure, hfailure, _⟩
    rw [h] at hfailure
    cases hfailure

end Settled

namespace Ledger

variable {ledger : Ledger} {fields : OrderFields}

theorem settled_createOrder (hvalid : fields.validate = .ok ()) {createdBy : String}
    (hname : Text.isBlank createdBy = false) {fresh : OrderId}
    (hunused : ∀ order ∈ ledger.orders, order.id ≠ fresh) (clock : Clock) :
    Settled (createOrder fields createdBy fresh clock ledger.database).1
      (Order.create fresh fields (clock 0) createdBy) (PairHeld ledger.orders fields)
      (ledger.trail.next ≤ maxInteger) := by
  by_cases hheld : PairHeld ledger.orders fields
  · rw [createOrder_conflict hvalid hname hheld]
    exact .of_held rfl rfl hheld
  · by_cases hroom : ledger.trail.next ≤ maxInteger
    · rw [createOrder_done hvalid hname hheld hunused hroom]
      exact .of_room rfl hheld hroom
    · rw [createOrder_exhausted hvalid hname hheld hunused hroom]
      exact .of_full rfl rfl hheld hroom

theorem settled_updateOrder (hkept : ledger.WellKept) (hvalid : fields.validate = .ok ())
    {order : Order} (hlive : order ∈ ledger.orders) (clock : Clock) :
    Settled (updateOrder order.id fields clock ledger.database).1 (order.apply fields)
      (PairHeld (ledger.orders.filter fun other => other.id ≠ order.id) fields)
      (ledger.trail.next ≤ maxInteger) := by
  by_cases hheld : PairHeld (ledger.orders.filter fun other => other.id ≠ order.id) fields
  · rw [updateOrder_conflict hvalid hkept hlive hheld]
    exact .of_held rfl rfl hheld
  · by_cases hroom : ledger.trail.next ≤ maxInteger
    · rw [updateOrder_done hvalid hkept hlive hheld hroom]
      exact .of_room rfl hheld hroom
    · rw [updateOrder_exhausted hvalid hkept hlive hheld hroom]
      exact .of_full rfl rfl hheld hroom

end Ledger

/-- After any run no two live orders share a pair. Creating an order with a new id is a conflict
exactly when a live order holds its pair, and updating one exactly when another live order does;
without a conflict both succeed as long as the counter has a next number. Updating an order that
is not live finds nothing, whatever pair it is given. -/
theorem conflict_iff_pair_held (calls : List Mutation) :
    ∃ (orders : List Order) (trail : Trail),
      (Run.of calls).database.Holds (orders.map OrderRow.ofOrder) trail ∧
      orders.Pairwise (fun a b => ¬ (a.caseId = b.caseId ∧ a.orderReference = b.orderReference)) ∧
      (∀ fields createdBy fresh clock, fields.validate = .ok () →
        Text.isBlank createdBy = false → (∀ order ∈ orders, order.id ≠ fresh) →
        Settled (createOrder fields createdBy fresh clock (Run.of calls).database).1
          (Order.create fresh fields (clock 0) createdBy) (PairHeld orders fields)
          (trail.next ≤ maxInteger)) ∧
      (∀ order ∈ orders, ∀ fields clock, fields.validate = .ok () →
        Settled (updateOrder order.id fields clock (Run.of calls).database).1 (order.apply fields)
          (PairHeld (orders.filter fun other => other.id ≠ order.id) fields)
          (trail.next ≤ maxInteger)) ∧
      ∀ id fields clock, fields.validate = .ok () → (∀ order ∈ orders, order.id ≠ id) →
        (updateOrder id fields clock (Run.of calls).database).1 =
          .error (.ofError (.notFound .id id.toText)) := by
  obtain ⟨ledger, hkeeps⟩ := Run.exists_ledger calls
  have hkept := hkeeps.kept
  rw [hkeeps.database_eq]
  refine ⟨ledger.orders, ledger.trail, ledger.holds, hkept.pairs, ?_, ?_, ?_⟩
  · intro fields createdBy fresh clock hvalid hname hunused
    exact Ledger.settled_createOrder hvalid hname hunused clock
  · intro order hlive fields clock hvalid
    exact Ledger.settled_updateOrder hkept hvalid hlive clock
  · intro id fields clock hvalid hunused
    rw [Ledger.updateOrder_missing hvalid hunused]

/-- The order that moved away holds its new pair, and its old one is free again. -/
theorem conflict_iff_pair_held_moved :
    let db := (Run.of Sample.movedAway).database
    FailsAs (createOrder (Sample.fieldsUnder Sample.secondCase "2026/1") "clerk"
        Sample.secondId Sample.clock db).1 .conflict ∧
      ∃ order, (createOrder (Sample.fieldsUnder Sample.firstCase "2026/1") "clerk"
        Sample.secondId Sample.clock db).1 = .ok order := by
  intro db
  let moved := Sample.firstOrder.apply (Sample.fieldsUnder Sample.secondCase "2026/1")
  obtain ⟨orders, trail, hholds, _, hcreate, _, _⟩ := conflict_iff_pair_held Sample.movedAway
  have hrows : db.orders = some ([moved].map OrderRow.ofOrder) := by decide +kernel
  have hnext : db.trail.map Trail.next = some 5 := by decide +kernel
  have horders : orders = [moved] :=
    List.map_injective_iff.mpr OrderRow.ofOrder_injective
      (Option.some.inj (hholds.orders_eq.symm.trans hrows))
  have hroom : trail.next ≤ maxInteger := by
    have htrail : db.trail = some trail := hholds.trail_eq
    rw [htrail, Option.map_some, Option.some.injEq] at hnext
    rw [hnext]
    decide
  have hunused : ∀ order ∈ orders, order.id ≠ Sample.secondId := by
    rw [horders]
    decide
  have hheld : PairHeld orders (Sample.fieldsUnder Sample.secondCase "2026/1") := by
    rw [horders]
    exact ⟨moved, List.mem_singleton_self _, rfl, rfl⟩
  have hfree : ¬ PairHeld orders (Sample.fieldsUnder Sample.firstCase "2026/1") := by
    rw [horders, PairHeld]
    decide
  have htaken := hcreate (Sample.fieldsUnder Sample.secondCase "2026/1") "clerk"
    Sample.secondId Sample.clock rfl (by decide) hunused
  have hfreed := hcreate (Sample.fieldsUnder Sample.firstCase "2026/1") "clerk"
    Sample.secondId Sample.clock rfl (by decide) hunused
  exact ⟨htaken.conflict_iff.mpr hheld, _, hfreed.ok_iff.mpr ⟨hfree, hroom⟩⟩

/-! ## The last number -/

namespace Sample

def createFirst : Mutation :=
  .create (fieldsUnder firstCase "2026/1") "clerk" firstId clock

def updateFirst : Mutation :=
  .update firstId (fieldsUnder firstCase "2026/1") clock

def deleteFirst : Mutation :=
  .delete ⟨[firstId.toText], []⟩ clock

theorem keeps_updates {n : Nat} (hn : n + 1 ≤ maxInteger) :
    ∃ ledger, (Run.of (createFirst :: List.replicate n updateFirst)).Keeps ledger ∧
      ledger.orders = [firstOrder] ∧ ledger.trail.last = n + 1 := by
  induction n with
  | zero =>
      have hstep : Ledger.empty.Step createFirst (.created firstOrder)
          (Ledger.empty.create firstOrder noon) :=
        .create rfl (by decide) (by rintro ⟨order, horder, _⟩; cases horder)
          (by intro order horder; cases horder) (by decide)
      exact ⟨_, Run.keeps_start.step_of hstep, rfl, rfl⟩
  | succ n ih =>
      obtain ⟨ledger, hkeeps, horders, hlast⟩ := ih (by omega)
      have hlive : firstOrder ∈ ledger.orders := by
        rw [horders]
        exact List.mem_singleton_self _
      have hfree : ¬ PairHeld (ledger.orders.filter fun other => other.id ≠ firstOrder.id)
          (fieldsUnder firstCase "2026/1") := by
        rw [horders]
        rintro ⟨order, horder, _⟩
        simp at horder
      have hroom : ledger.trail.next ≤ maxInteger := by
        rw [Trail.next_eq, hlast]
        exact hn
      have hstep : ledger.Step updateFirst (.modified firstOrder)
          (ledger.modify firstOrder noon) :=
        .update rfl hlive hfree hroom
      refine ⟨ledger.modify firstOrder noon, ?_, ?_, ?_⟩
      · rw [List.replicate_succ', ← List.cons_append, Run.of_append_singleton]
        exact hkeeps.step_of hstep
      · rw [Ledger.modify, horders]
        rfl
      · rw [Ledger.last_modify, hlast]

/-- The last number is used up by the deletion of the only order. -/
theorem keeps_nothing {n : Nat} (hn : n + 2 = maxInteger) :
    ∃ ledger,
      (Run.of (createFirst :: List.replicate n updateFirst ++ [deleteFirst])).Keeps ledger ∧
        ledger.orders = [] ∧ ledger.trail.last = maxInteger := by
  obtain ⟨ledger, hkeeps, horders, hlast⟩ := keeps_updates (by omega : n + 1 ≤ maxInteger)
  have hresolve : OrderFilter.resolve [firstId.toText] [] = .ok (.ids [firstId]) := by
    decide +kernel
  have hwanted : ledger.orders.filter (OrderFilter.wants (.ids [firstId])) = [firstOrder] := by
    rw [horders]
    rfl
  have hanswered : OrderFilter.Answered (.ids [firstId]) ledger.orders := by
    intro id hid
    rw [horders, List.mem_singleton.mp hid]
    exact ⟨firstOrder, List.mem_singleton_self _, rfl⟩
  have hroom : ledger.trail.last +
      (ledger.orders.filter (OrderFilter.wants (.ids [firstId]))).length ≤ maxInteger := by
    rw [hwanted, hlast, List.length_singleton]
    omega
  have hstep : ledger.Step deleteFirst _ (ledger.remove (.ids [firstId])) :=
    .delete hresolve hanswered hroom
  refine ⟨ledger.remove (.ids [firstId]), ?_, ?_, ?_⟩
  · rw [Run.of_append_singleton]
    exact hkeeps.step_of hstep
  · rw [Ledger.remove, horders]
    rfl
  · rw [Ledger.last_remove, hwanted, hlast, List.length_singleton]
    omega

end Sample

/-- Where no order is live any more but all numbers are used up, nothing holds a pair and yet no
order can be created. -/
theorem create_can_fail_without_conflict :
    ¬ ∀ (calls : List Mutation) (orders : List Order) (fields : OrderFields) (createdBy : String)
        (fresh : OrderId) (clock : Clock),
      (Run.of calls).database.orders = some (orders.map OrderRow.ofOrder) →
      fields.validate = .ok () → Text.isBlank createdBy = false →
      (∀ order ∈ orders, order.id ≠ fresh) → ¬ PairHeld orders fields →
      ∃ order, (createOrder fields createdBy fresh clock (Run.of calls).database).1 =
        .ok order := by
  intro hclaim
  obtain ⟨ledger, hkeeps, horders, hlast⟩ :=
    Sample.keeps_nothing (Nat.sub_add_cancel (by decide : 2 ≤ maxInteger))
  have hrows : ledger.database.orders = some (([] : List Order).map OrderRow.ofOrder) := by
    rw [Ledger.database, horders]
  have hfree : ¬ PairHeld [] (Sample.fieldsUnder Sample.firstCase "2026/1") := by
    rintro ⟨order, horder, _⟩
    cases horder
  have hunused : ∀ order ∈ ([] : List Order), order.id ≠ Sample.firstId := by
    intro order horder
    cases horder
  have hfull : ¬ ledger.trail.next ≤ maxInteger := by
    rw [Trail.next_eq, hlast]
    omega
  obtain ⟨order, hcreated⟩ := hclaim _ [] _ "clerk" Sample.firstId Sample.clock
    (hkeeps.database_eq ▸ hrows) rfl (by decide) hunused hfree
  rw [hkeeps.database_eq, Ledger.createOrder_exhausted rfl (by decide) (horders ▸ hfree)
    (horders ▸ hunused) hfull] at hcreated
  cases hcreated

end PaymentOrders.Store
