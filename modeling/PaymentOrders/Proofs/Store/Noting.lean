import PaymentOrders.Proofs.Store.Writes
/-!
# Noting the numbers of revisions

An engine that runs the calls and notes every number that a revision gets. Whoever forgets the
notes sees the sessions themselves. What is noted are the numbers that follow the counter, one after
the other; a transaction that fails takes its notes back with everything else.
-/

namespace PaymentOrders.Store

/-- A database, and the numbers that revisions got in it, in the order in which they got them. -/
structure Noted where
  database : Database
  numbers : List Int

abbrev Noting (α : Type) := ExceptT Failure (StateM Noted) α

namespace Noting

variable {α β : Type}

/-- A session that gives no number to any revision. -/
def plain (session : Session α) : Noting α :=
  fun noted => ((session noted.database).1, { noted with database := (session noted.database).2 })

def appendRevision (change : ChangeType) (order : Order) (time : Timestamp) : Noting Int :=
  fun noted =>
    match Store.appendRevision change order time noted.database with
    | (.ok number, db) => (.ok number, ⟨db, noted.numbers ++ [number]⟩)
    | (.error failure, db) => (.error failure, { noted with database := db })

/-- Does everything or, if the session fails, nothing: what it noted is forgotten too. -/
def transaction (noting : Noting α) : Noting α :=
  fun noted =>
    match noting noted with
    | (.ok answer, changed) => (.ok answer, changed)
    | (.error failure, _) => (.error failure, noted)

def engine : Engine Noting where
  statement := plain
  append := appendRevision
  transaction := transaction

def perform (call : Mutation) : Noting Answer :=
  engine.perform call

/-! ## What is noted -/

def numbersAfter (last count : Nat) : List Int :=
  (List.range' (last + 1) count).map Int.ofNat

theorem numbersAfter_append (last count more : Nat) :
    numbersAfter last count ++ numbersAfter (last + count) more =
      numbersAfter last (count + more) := by
  rw [numbersAfter, numbersAfter, ← List.map_append, Nat.add_right_comm, List.range'_append_1]
  rfl

theorem length_numbersAfter (last count : Nat) : (numbersAfter last count).length = count := by
  rw [numbersAfter, List.length_map, List.length_range']

/-- The counter of the trail stands at a number, and no row is ahead of it. -/
def CountsTo (db : Database) (last : Nat) : Prop :=
  ∃ trail, db.trail = some trail ∧ trail.counter.getD 0 = last ∧ trail.last = last

theorem CountsTo.of_trail_eq {db after : Database} {last : Nat} (h : CountsTo db last)
    (htrail : after.trail = db.trail) : CountsTo after last := by
  rwa [CountsTo, htrail]

/-- The second state has noted the numbers by which the counter is ahead of that of the first. -/
def Follows (noted after : Noted) : Prop :=
  ∀ last, CountsTo noted.database last →
    ∃ count, CountsTo after.database (last + count) ∧
      after.numbers = noted.numbers ++ numbersAfter last count

theorem Follows.of_countsTo {noted after : Noted}
    (h : ∀ last, CountsTo noted.database last → CountsTo after.database last)
    (hnumbers : after.numbers = noted.numbers) : Follows noted after := by
  intro last hlast
  refine ⟨0, h last hlast, ?_⟩
  rw [hnumbers]
  exact (List.append_nil _).symm

theorem Follows.refl (noted : Noted) : Follows noted noted :=
  .of_countsTo (fun _ hlast => hlast) rfl

theorem Follows.trans {noted between after : Noted} (hfirst : Follows noted between)
    (hnext : Follows between after) : Follows noted after := by
  intro last hlast
  obtain ⟨count, hlast', hnumbers'⟩ := hfirst last hlast
  obtain ⟨more, hlast'', hnumbers''⟩ := hnext (last + count) hlast'
  refine ⟨count + more, ?_, ?_⟩
  · rwa [← Nat.add_assoc]
  · rw [hnumbers'', hnumbers', List.append_assoc, numbersAfter_append]

/-- Without its notes the one session is the other, and its notes follow the counter. -/
structure Notes (noting : Noting α) (session : Session α) : Prop where
  forget : ∀ noted, session noted.database = ((noting noted).1, (noting noted).2.database)
  follow : ∀ noted, Follows noted (noting noted).2

/-- The session keeps the counter, ahead of all rows. -/
def KeepsLast (session : Session α) : Prop :=
  ∀ db last, CountsTo db last → CountsTo (session db).2 last

theorem keepsLast_of_readOnly {session : Session α} (h : session.ReadOnly) :
    KeepsLast session := by
  intro db last hlast
  rwa [h db]

theorem KeepsLast.mapFailure {session : Session α} (h : KeepsLast session)
    (f : Failure → Failure) : KeepsLast (session.mapFailure f) := h

theorem keepsLast_write {statement : Database → Except Failure (α × Database)}
    (h : ∀ db a after, statement db = .ok (a, after) → after.trail = db.trail) :
    KeepsLast (Session.write statement) := by
  intro db last hlast
  cases hrun : statement db with
  | error failure => rwa [Session.snd_write_of_error hrun]
  | ok answer =>
      rw [Session.write_of_ok hrun]
      exact hlast.of_trail_eq (h db answer.1 answer.2 hrun)

theorem keepsLast_insertOrder (order : Order) : KeepsLast (insertOrder order) := by
  apply KeepsLast.mapFailure
  apply keepsLast_write
  intro db a after h
  obtain ⟨rows, _, h⟩ := Steps.bind_eq_ok.mp h
  obtain ⟨grown, _, h⟩ := Steps.bind_eq_ok.mp h
  cases h
  rfl

theorem keepsLast_replaceFields (row : OrderRow) (fields : OrderFields) :
    KeepsLast (replaceFields row fields) := by
  apply KeepsLast.mapFailure
  apply keepsLast_write
  intro db a after h
  obtain ⟨rows, _, h⟩ := Steps.bind_eq_ok.mp h
  obtain ⟨changed, _, h⟩ := Steps.bind_eq_ok.mp h
  cases h
  rfl

theorem keepsLast_dropSelected (filter : OrderFilter) : KeepsLast (dropSelected filter) := by
  apply KeepsLast.mapFailure
  apply keepsLast_write
  intro db a after h
  obtain ⟨rows, _, h⟩ := Steps.bind_eq_ok.mp h
  cases h
  rfl

/-- Fewer rows are not ahead of the counter either. -/
theorem keepsLast_purgeTrail (gone : Database → Trail → RevisionRow → Bool) :
    KeepsLast (purgeTrail gone) := by
  rintro db last ⟨trail, htrail, hcounter, hlast⟩
  have hpurge : purgeTrail gone db = (.ok (trail.rows.countP (gone db trail)),
      db.withTrail (trail.purge (gone db trail))) := by
    apply Session.write_of_ok
    rw [Database.theTrail, htrail]
    rfl
  obtain ⟨_, hrows⟩ := Trail.last_le_iff.mp hlast.le
  have hle : (trail.purge (gone db trail)).last ≤ last :=
    Trail.last_le_iff.mpr ⟨hcounter.le, fun row hrow => hrows row (List.mem_of_mem_filter hrow)⟩
  have hge : last ≤ (trail.purge (gone db trail)).last :=
    hcounter.ge.trans (trail.purge (gone db trail)).counter_le_last
  rw [hpurge]
  exact ⟨trail.purge (gone db trail), rfl, hcounter, Nat.le_antisymm hle hge⟩

theorem keepsLast_purgeSelected (filter : OrderFilter) : KeepsLast (purgeSelected filter) := by
  cases filter with
  | ids keys => exact (keepsLast_purgeTrail _).mapFailure _
  | caseIds keys => exact (keepsLast_purgeTrail _).mapFailure _

theorem notes_plain {session : Session α} (h : KeepsLast session) :
    Notes (plain session) session where
  forget := fun _ => rfl
  follow := fun noted => .of_countsTo (h noted.database) rfl

theorem notes_read (statement : Database → Except Failure α) :
    Notes (plain (Session.read statement)) (Session.read statement) :=
  notes_plain (keepsLast_of_readOnly (Session.readOnly_read statement))

theorem notes_pure (a : α) : Notes (pure a) (pure a) where
  forget := fun _ => rfl
  follow := Follows.refl

theorem atomic_appendRevision (change : ChangeType) (order : Order) (time : Timestamp) :
    (Store.appendRevision change order time).Atomic :=
  (Session.atomic_write _).mapFailure _

theorem notes_appendRevision (change : ChangeType) (order : Order) (time : Timestamp) :
    Notes (appendRevision change order time) (Store.appendRevision change order time) where
  forget := by
    intro noted
    unfold appendRevision
    split
    next hrun => exact hrun
    next hrun => exact hrun
  follow := by
    intro noted
    unfold appendRevision
    split
    next number db hrun =>
      rintro last ⟨trail, htrail, _, rfl⟩
      obtain ⟨rfl, rfl⟩ := appendRevision_of_ok htrail hrun
      exact ⟨1, ⟨_, rfl, rfl, Trail.last_grown rfl⟩, rfl⟩
    next failure db hrun =>
      -- The number that a refused row was to get is free again.
      have hsame : db = noted.database := by
        have hatomic := atomic_appendRevision change order time noted.database failure
        rw [hrun] at hatomic
        exact hatomic rfl
      subst hsame
      exact .refl noted

theorem Notes.bind {noting : Noting α} {session : Session α} {next : α → Noting β}
    {rest : α → Session β} (hfirst : Notes noting session)
    (hnext : ∀ a, Notes (next a) (rest a)) : Notes (noting >>= next) (session >>= rest) where
  forget := by
    intro noted
    have hsession := hfirst.forget noted
    rcases hrun : noting noted with ⟨answer, between⟩
    rw [hrun] at hsession
    cases answer with
    | error failure => rw [Steps.bind_of_error hrun, Steps.bind_of_error hsession]
    | ok a =>
        rw [Steps.bind_of_ok hrun, Steps.bind_of_ok hsession]
        exact (hnext a).forget between
  follow := by
    intro noted
    have hnotes := hfirst.follow noted
    rcases hrun : noting noted with ⟨answer, between⟩
    rw [hrun] at hnotes
    cases answer with
    | error failure =>
        rw [Steps.bind_of_error hrun]
        exact hnotes
    | ok a =>
        rw [Steps.bind_of_ok hrun]
        exact hnotes.trans ((hnext a).follow between)

theorem Notes.map {noting : Noting α} {session : Session α} (h : Notes noting session)
    (f : α → β) : Notes (f <$> noting) (f <$> session) where
  forget := by
    intro noted
    rw [Steps.map_apply, Steps.map_apply, h.forget noted]
  follow := by
    intro noted
    rw [Steps.map_apply]
    exact h.follow noted

/-- A transaction that fails forgets what it noted, and the counter is what it was. -/
theorem Notes.transaction {noting : Noting α} {session : Session α}
    (h : Notes noting session) : Notes noting.transaction session.transaction where
  forget := by
    intro noted
    have hsession := h.forget noted
    unfold Noting.transaction
    split
    next hrun =>
      rw [hrun] at hsession
      rw [Session.transaction_of_ok hsession]
    next hrun =>
      rw [hrun] at hsession
      rw [Session.transaction_of_error hsession]
  follow := by
    intro noted
    have hnotes := h.follow noted
    unfold Noting.transaction
    split
    next hrun =>
      rw [hrun] at hnotes
      exact hnotes
    next => exact .refl noted

theorem notes_createOrder (fields : OrderFields) (createdBy : String) (fresh : OrderId)
    (clock : Clock) :
    Notes (engine.createOrder fields createdBy fresh clock)
      (Store.createOrder fields createdBy fresh clock) := by
  apply (notes_read _).bind
  intro _
  apply (notes_read _).bind
  intro _
  apply Notes.transaction
  apply (notes_plain (keepsLast_insertOrder _)).bind
  intro _
  apply (notes_appendRevision _ _ _).bind
  intro _
  exact notes_pure _

theorem notes_updateOrder (id : OrderId) (fields : OrderFields) (clock : Clock) :
    Notes (engine.updateOrder id fields clock) (Store.updateOrder id fields clock) := by
  apply (notes_read _).bind
  intro _
  apply Notes.transaction
  apply (notes_read _).bind
  rintro (_ | row)
  · exact notes_read _
  · apply (notes_read _).bind
    intro order
    apply (notes_plain (keepsLast_replaceFields row fields)).bind
    intro _
    apply (notes_appendRevision _ _ _).bind
    intro _
    exact notes_pure _

theorem notes_appendDeleted (clock : Clock) (i : Nat) (orders : List Order) :
    Notes (engine.appendDeleted clock i orders) (Store.appendDeleted clock i orders) := by
  induction orders generalizing i with
  | nil => exact notes_pure ()
  | cons order orders ih =>
      apply (notes_appendRevision _ _ _).bind
      intro _
      exact ih (i + 1)

theorem notes_removeSelected (filter : OrderFilter) (clock : Clock) :
    Notes (engine.removeSelected filter clock) (Store.removeSelected filter clock) := by
  apply (notes_read _).bind
  intro matched
  apply (notes_appendDeleted clock 0 matched).bind
  intro _
  apply (notes_plain (keepsLast_dropSelected filter)).bind
  intro deleted
  split
  · exact notes_pure matched
  · exact notes_read _

theorem notes_deleteOrders (request : DeleteRequest) (clock : Clock) :
    Notes (engine.deleteOrders request clock) (Store.deleteOrders request clock) := by
  apply (notes_read _).bind
  intro filter
  unfold Engine.deleteSelected
  split
  · exact notes_read _
  · apply Notes.transaction
    apply (notes_removeSelected filter clock).bind
    intro removed
    cases missingKeys filter removed with
    | nil =>
        apply (notes_plain (keepsLast_purgeSelected filter)).bind
        intro revisions
        exact notes_pure _
    | cons key keys => exact notes_read _

/-- The calls that note numbers are the calls. -/
theorem notes_perform (call : Mutation) : Notes (perform call) call.perform := by
  cases call with
  | create fields createdBy fresh clock =>
      exact (notes_createOrder fields createdBy fresh clock).map Answer.created
  | update id fields clock => exact (notes_updateOrder id fields clock).map Answer.modified
  | delete request clock => exact (notes_deleteOrders request clock).map Answer.deleted

end Noting

end PaymentOrders.Store
