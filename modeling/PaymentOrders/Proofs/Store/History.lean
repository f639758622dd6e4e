import PaymentOrders.Proofs.Store.Ledger.Kept
/-!
# What the trail tells of an order

The revisions of a live order retell what the calls answered about it since it was created: first
the creation, then every change, each with the order as it was answered. An answer about another
order changes nothing of that.
-/

namespace PaymentOrders.Store

namespace Answer

/-- The order that a call answered about an id; a deletion answers about none. -/
def orderOf? (id : OrderId) : Answer → Option Order
  | created order | modified order => if order.id = id then some order else none
  | deleted _ => none

/-- Whether a call answered that it created the order with an id. -/
def Creates (id : OrderId) : Answer → Prop
  | created order => order.id = id
  | modified _ | deleted _ => False

end Answer

/-- What calls answered about the order with an id since it was last created: the creation and
the updates after it. -/
def AnsweredSince (answers : List Answer) (id : OrderId) (first : Order) (updates : List Order) :
    Prop :=
  ∃ before later, answers = before ++ .created first :: later ∧ first.id = id ∧
    (∀ answer ∈ later, ¬ answer.Creates id) ∧ updates = later.filterMap (Answer.orderOf? id)

/-- The revisions retell a live order: what became of it, as it was answered, up to how it is
now. -/
structure Retells (answers : List Answer) (order : Order) (revisions : List Revision) : Prop where
  answered : ∃ first updates, AnsweredSince answers order.id first updates ∧
    revisions.map Revision.snapshot = (first :: updates).map some ∧
    revisions.map Revision.changeType = .created :: updates.map fun _ => .modified
  own : ∀ revision ∈ revisions, revision.recordId = order.id ∧
    ∃ snapshot, revision.snapshot = some snapshot ∧ snapshot.id = order.id ∧
      snapshot.createdTimestamp = order.createdTimestamp ∧ snapshot.createdBy = order.createdBy
  last : revisions.getLast?.bind Revision.snapshot = some order

namespace AnsweredSince

variable {answers : List Answer} {id : OrderId} {first : Order} {updates : List Order}

theorem created (answers : List Answer) (order : Order) :
    AnsweredSince (answers ++ [.created order]) order.id order [] :=
  ⟨answers, [], rfl, rfl, by simp, rfl⟩

theorem append (h : AnsweredSince answers id first updates) (answer : Answer)
    (hother : ¬ answer.Creates id) :
    AnsweredSince (answers ++ [answer]) id first
      (updates ++ [answer].filterMap (Answer.orderOf? id)) := by
  obtain ⟨before, later, rfl, hid, hlast, rfl⟩ := h
  refine ⟨before, later ++ [answer], ?_, hid, ?_, ?_⟩
  · rw [List.append_assoc, List.cons_append]
  · intro found hfound
    rcases List.mem_append.mp hfound with hfound | hfound
    · exact hlast found hfound
    · rw [List.mem_singleton.mp hfound]
      exact hother
  · rw [List.filterMap_append]

end AnsweredSince

namespace Retells

variable {answers : List Answer} {order : Order} {revisions : List Revision}

theorem created (answers : List Answer) (order : Order) (number : Int) (time : Timestamp) :
    Retells (answers ++ [.created order]) order
      [{ number, recordId := order.id, changeType := .created, timestamp := time
         snapshot := some order }] where
  answered := ⟨order, [], .created answers order, rfl, rfl⟩
  own := by
    intro revision hrevision
    rw [List.mem_singleton.mp hrevision]
    exact ⟨rfl, order, rfl, rfl, rfl, rfl⟩
  last := rfl

/-- An answer about no order, or about another one, leaves an order's story alone. -/
theorem frame (h : Retells answers order revisions) {answer : Answer}
    (hother : ¬ answer.Creates order.id) (hnone : answer.orderOf? order.id = none) :
    Retells (answers ++ [answer]) order revisions where
  answered := by
    obtain ⟨first, updates, hsince, hrest⟩ := h.answered
    have happend := hsince.append answer hother
    rw [List.filterMap_cons_none hnone, List.filterMap_nil, List.append_nil] at happend
    exact ⟨first, updates, happend, hrest⟩
  own := h.own
  last := h.last

theorem modified (h : Retells answers order revisions) (fields : OrderFields) (number : Int)
    (time : Timestamp) :
    Retells (answers ++ [.modified (order.apply fields)]) (order.apply fields)
      (revisions ++ [{ number, recordId := order.id, changeType := .modified, timestamp := time
                       snapshot := some (order.apply fields) }]) where
  answered := by
    obtain ⟨first, updates, hsince, hsnapshots, hchanges⟩ := h.answered
    refine ⟨first, updates ++ [order.apply fields], ?_, ?_, ?_⟩
    · have happend := hsince.append (.modified (order.apply fields)) id
      have hone : [Answer.modified (order.apply fields)].filterMap (Answer.orderOf? order.id) =
          [order.apply fields] := by
        simp [Answer.orderOf?, Order.apply]
      rwa [hone] at happend
    · rw [List.map_append, hsnapshots, ← List.cons_append, List.map_append]
      rfl
    · rw [List.map_append, hchanges, List.map_append]
      rfl
  own := by
    intro revision hrevision
    rcases List.mem_append.mp hrevision with hrevision | hrevision
    · exact h.own revision hrevision
    · rw [List.mem_singleton.mp hrevision]
      exact ⟨rfl, order.apply fields, rfl, rfl, rfl, rfl⟩
  last := by
    rw [List.getLast?_concat]
    rfl

/-- There is one revision for the creation and one for each update after it. -/
theorem length (h : Retells answers order revisions) :
    ∃ first updates, AnsweredSince answers order.id first updates ∧
      revisions.length = 1 + updates.length := by
  obtain ⟨first, updates, hsince, hsnapshots, _⟩ := h.answered
  refine ⟨first, updates, hsince, ?_⟩
  have hlength := congrArg List.length hsnapshots
  rw [List.length_map, List.length_map, List.length_cons] at hlength
  omega

theorem ne_nil (h : Retells answers order revisions) : revisions ≠ [] := by
  rintro rfl
  have hlast := h.last
  cases hlast

end Retells

/-! ## Stories of a ledger -/

namespace Ledger

def history (ledger : Ledger) (id : OrderId) : List Revision :=
  (ledger.entries.filter fun entry => entry.order.id = id).map LedgerEntry.toRevision

/-- The ledger retells every live order. -/
def Told (answers : List Answer) (ledger : Ledger) : Prop :=
  ∀ order ∈ ledger.orders, Retells answers order (ledger.history order.id)

theorem told_empty : empty.Told [] := by
  intro order horder
  cases horder

section Told

variable {ledger after : Ledger} {answers : List Answer} {answer : Answer} {entry : LedgerEntry}

theorem history_append_self (h : after.entries = ledger.entries ++ [entry]) :
    after.history entry.order.id = ledger.history entry.order.id ++ [entry.toRevision] := by
  rw [history, h, List.filter_append, List.map_append, List.filter_singleton]
  simp [history]

theorem history_append_of_ne (h : after.entries = ledger.entries ++ [entry]) {id : OrderId}
    (hne : entry.order.id ≠ id) : after.history id = ledger.history id := by
  rw [history, h, List.filter_append, List.filter_singleton]
  simp [history, hne]

/-- An id that no order has, has no story. -/
theorem WellKept.history_of_unused (hkept : ledger.WellKept) {id : OrderId}
    (hunused : ∀ order ∈ ledger.orders, order.id ≠ id) : ledger.history id = [] := by
  rw [history, List.map_eq_nil_iff, List.filter_eq_nil_iff]
  intro entry hentry
  obtain ⟨owner, howner, hid⟩ := hkept.owned entry hentry
  simpa [hid] using hunused owner howner

theorem Told.create (hkept : ledger.WellKept) (htold : ledger.Told answers) {order : Order}
    (hunused : ∀ other ∈ ledger.orders, other.id ≠ order.id) (time : Timestamp) :
    (ledger.create order time).Told (answers ++ [.created order]) := by
  intro other hother
  rcases List.mem_append.mp hother with hother | hother
  · have hne : order.id ≠ other.id := (hunused other hother).symm
    rw [history_append_of_ne rfl hne]
    exact (htold other hother).frame hne (if_neg hne)
  · have hentries : (ledger.create order time).entries =
        ledger.entries ++ [⟨ledger.trail.next, .created, time, order⟩] := rfl
    have hstory := history_append_self hentries
    rw [hkept.history_of_unused hunused, List.nil_append] at hstory
    rw [List.mem_singleton.mp hother, hstory]
    exact .created answers order _ time

theorem Told.modify (htold : ledger.Told answers) {order : Order}
    (hlive : order ∈ ledger.orders) (fields : OrderFields) (time : Timestamp) :
    (ledger.modify (order.apply fields) time).Told
      (answers ++ [.modified (order.apply fields)]) := by
  intro other hother
  have hid : order.id = (order.apply fields).id := rfl
  rcases (mem_modify hlive hid time).mp hother with rfl | ⟨hother, hne⟩
  · have hentries : (ledger.modify (order.apply fields) time).entries =
        ledger.entries ++ [⟨ledger.trail.next, .modified, time, order.apply fields⟩] := rfl
    have hstory := history_append_self hentries
    rw [hstory]
    exact (htold order hlive).modified fields _ time
  · rw [history_append_of_ne rfl hne.symm]
    exact (htold other hother).frame not_false (if_neg hne.symm)

theorem Told.remove (hkept : ledger.WellKept) (htold : ledger.Told answers)
    (filter : OrderFilter) (summary : DeletionSummary) :
    (ledger.remove filter).Told (answers ++ [.deleted summary]) := by
  intro order horder
  obtain ⟨hlive, hstays⟩ := List.mem_filter.mp horder
  have hsame : (ledger.remove filter).history order.id = ledger.history order.id := by
    rw [history, Ledger.remove, List.filter_filter, history]
    apply congrArg
    apply List.filter_congr
    intro entry _
    by_cases hid : entry.order.id = order.id
    · rw [hid, hkept.removes_iff hlive, hstays, Bool.and_true]
    · simp [hid]
  rw [hsame]
  exact (htold order hlive).frame not_false rfl

theorem Step.told {call : Mutation} (hstep : ledger.Step call answer after)
    (hkept : ledger.WellKept) (htold : ledger.Told answers) :
    after.Told (answers ++ [answer]) := by
  cases hstep with
  | create hvalid hname hfree hunused hroom => exact htold.create hkept hunused _
  | update hvalid hlive hfree hroom => exact htold.modify hlive _ _
  | delete hresolve hanswered hroom => exact htold.remove hkept _ _

end Told

end Ledger

/-! ## Runs -/

/-- What the successful calls of a run answered, and the database that the run left. -/
structure Run where
  answers : List Answer
  database : Database

namespace Run

def start : Run :=
  ⟨[], (migrate .empty).2⟩

def step (run : Run) (call : Mutation) : Run :=
  match call.perform run.database with
  | (.ok answer, db) => ⟨run.answers ++ [answer], db⟩
  | (.error _, db) => ⟨run.answers, db⟩

/-- The run of some calls, one after the other, whether they succeed or not. -/
def of (calls : List Mutation) : Run :=
  calls.foldl step start

theorem of_append_singleton (calls : List Mutation) (call : Mutation) :
    of (calls ++ [call]) = (of calls).step call := by
  rw [of, List.foldl_append]
  rfl

theorem database_step (run : Run) (call : Mutation) :
    (run.step call).database = (call.perform run.database).2 := by
  rw [step]
  split
  next h => rw [h]
  next h => rw [h]

/-- The ledger that a run keeps. -/
structure Keeps (run : Run) (ledger : Ledger) : Prop where
  database_eq : run.database = ledger.database
  kept : ledger.WellKept
  told : ledger.Told run.answers

theorem keeps_start : start.Keeps .empty :=
  ⟨Ledger.snd_migrate_empty, Ledger.wellKept_empty, Ledger.told_empty⟩

/-- A call that is a step of the kept ledger makes the run keep the ledger after it. -/
theorem Keeps.step_of {run : Run} {ledger after : Ledger} (hkeeps : run.Keeps ledger)
    {call : Mutation} {answer : Answer} (hstep : ledger.Step call answer after) :
    (run.step call).Keeps after := by
  have hperform : call.perform run.database = (.ok answer, after.database) := by
    rw [hkeeps.database_eq]
    exact hstep.perform hkeeps.kept
  refine ⟨?_, hstep.wellKept hkeeps.kept, ?_⟩
  · rw [Run.step, hperform]
  · rw [Run.step, hperform]
    exact hstep.told hkeeps.kept hkeeps.told

theorem Keeps.step_refused {run : Run} {ledger : Ledger} (hkeeps : run.Keeps ledger)
    {call : Mutation} (hrefused : ledger.Refused call) : run.step call = run := by
  obtain ⟨failure, hperform⟩ := hrefused
  rw [← hkeeps.database_eq] at hperform
  rw [Run.step, hperform]

theorem Keeps.step {run : Run} {ledger : Ledger} (hkeeps : run.Keeps ledger) (call : Mutation) :
    ∃ after, (run.step call).Keeps after := by
  rcases Ledger.step_or_refused hkeeps.kept call with ⟨answer, after, hstep⟩ | hrefused
  · exact ⟨after, hkeeps.step_of hstep⟩
  · rw [hkeeps.step_refused hrefused]
    exact ⟨ledger, hkeeps⟩

/-- Every run keeps a ledger, whatever its calls. -/
theorem exists_ledger (calls : List Mutation) : ∃ ledger, (of calls).Keeps ledger := by
  induction calls using List.reverseRecOn with
  | nil => exact ⟨.empty, keeps_start⟩
  | append_singleton calls call ih =>
      obtain ⟨ledger, hkeeps⟩ := ih
      rw [of_append_singleton]
      exact hkeeps.step call

end Run

end PaymentOrders.Store
