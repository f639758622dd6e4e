import PaymentOrders.CommandLine
import PaymentOrders.Proofs.CommandLine.Commands
import PaymentOrders.Proofs.Service.Calls
import PaymentOrders.Proofs.Store.Schema
/-!
# Commands as calls of the service

Every command is one call of the service, but for that for fresh case ids, which is one call for
each of them. What the call leaves on the disk the command leaves there, it succeeds and fails
with the call, and shows what the call answers.
-/

namespace PaymentOrders.CommandLine

open Service Store
open Wire (encode)

/-! ## Fresh case ids -/

/-- The random bytes that some fresh case ids leave for the next one. -/
def randomAfter (random : List UInt8) : Nat → List UInt8
  | 0 => random
  | i + 1 => ((CaseId.draw (randomAfter random i)).map Prod.snd).getD []

section Fresh

variable {nanos : Nat → Int} {random rest : List UInt8}

theorem draw_of_generateText {now : Int} {text : String}
    (h : CaseId.generateText now random = .ok (text, rest)) :
    ((CaseId.draw random).map Prod.snd).getD [] = rest := by
  rw [CaseId.generateText] at h
  split at h
  next => cases h
  next sample after hdraw =>
    obtain ⟨-, rfl⟩ := Prod.mk.inj (Except.ok.inj h)
    rw [hdraw]
    rfl

theorem freshCaseIds_succ (nanos : Nat → Int) (random : List UInt8) (start count : Nat) :
    freshCaseIds nanos start (count + 1) (randomAfter random start) = do
      let id ← CaseId.generate (nanos start) (randomAfter random start)
      let ids ← freshCaseIds nanos (start + 1) count (randomAfter random (start + 1))
      return id :: ids := by
  rw [freshCaseIds, CaseId.generate]
  cases htext : CaseId.generateText (nanos start) (randomAfter random start) with
  | error error => rfl
  | ok made =>
      obtain ⟨text, rest⟩ := made
      rw [show randomAfter random (start + 1) = rest from draw_of_generateText htext]
      rfl

theorem demand_bind {α β : Type} (value : Except OrderError α) (next : α → Except OrderError β) :
    Call.demand (value >>= next) = (Call.demand value >>= fun a => Call.demand (next a)) := by
  funext disk
  cases value with
  | error error => rw [Steps.bind_of_error (demand_of_error rfl disk)]; rfl
  | ok a => rw [Steps.bind_of_ok (demand_of_ok rfl disk)]; rfl

/-- Fresh case ids are made one after the other, each from what the one before it left. -/
theorem demand_freshCaseIds (nanos : Nat → Int) (random : List UInt8) (start count : Nat) :
    Call.demand (freshCaseIds nanos start count (randomAfter random start)) =
      (List.range' start count).mapM fun i =>
        Service.generateCaseId (nanos i) (randomAfter random i) := by
  induction count generalizing start with
  | zero => rfl
  | succ count ih =>
      rw [List.range'_succ, List.mapM_cons, ← ih, freshCaseIds_succ, demand_bind]
      simp only [demand_bind]
      rfl

end Fresh

/-! ## Calls and what is shown of them -/

/-- What the service answers to the call that a command stands for. -/
inductive Answer where
  | status (status : SchemaStatus)
  | migrated (result : MigrateResult)
  | checked (report : IntegrityReport)
  | copied (result : BackupResult)
  | replied (reply : Reply)
  | generated (ids : List CaseId)
  deriving DecidableEq

/-- The call of the service that a command stands for. -/
def serviceCall (invocation : Invocation) (outside : Outside) : Call Answer :=
  let path := invocation.database
  let ask (call : OrderCall) : Call Answer := Answer.replied <$> call.perform path
  match invocation.command with
  | .schemaVersion => Answer.status <$> Service.schemaStatus path
  | .migrate dryRun => Answer.migrated <$> Service.migrate path dryRun
  | .integrityCheck => Answer.checked <$> Service.integrityCheck path
  | .backup target => Answer.copied <$> Service.backup path target
  | .restore source => Answer.status <$> Service.restore path source
  | .create request => ask (.create request (.ok invocation.actor) outside.fresh outside.clock)
  | .update request => ask (.update request outside.clock)
  | .get id => ask (.get id)
  | .query request => ask (.query request)
  | .delete request => ask (.delete request outside.clock)
  | .history id => ask (.history id)
  | .generate count =>
      Answer.generated <$> (List.range count.toNat).mapM fun i =>
        Service.generateCaseId (outside.nanos i) (randomAfter outside.random i)

/-- The members that a command shows of an answer. Most show all of it and nothing else. -/
inductive Shows : Command → Answer → List (String × Json) → Prop where
  | schemaVersion {status : SchemaStatus} {members : List (String × Json)}
      (hmembers : encode status = .object members) :
      Shows .schemaVersion (.status status)
        (members ++ [("up_to_date", .bool status.pendingVersions.isEmpty)])
  | migrate {dryRun : Bool} {result : MigrateResult} {members : List (String × Json)}
      (hmembers : encode result = .object members) :
      Shows (.migrate dryRun) (.migrated result) members
  | integrityCheck {report : IntegrityReport} {members : List (String × Json)}
      (hmembers : encode report = .object members) :
      Shows .integrityCheck (.checked report)
        (members ++ [("consistent", .bool report.isConsistent)])
  | backup {target : String} {result : BackupResult} {members : List (String × Json)}
      (hmembers : encode result = .object members) :
      Shows (.backup target) (.copied result) members
  | restore {source : String} {status : SchemaStatus} :
      Shows (.restore source) (.status status)
        [("restored_from", .string source), ("current_version", .integer status.currentVersion),
          ("up_to_date", .bool status.pendingVersions.isEmpty)]
  | order {command : Command} {order : Order} {members : List (String × Json)}
      (hmembers : encode order = .object members) :
      Shows command (.replied (.order order)) members
  | query {request : QueryRequest} {page : Page Order} {members : List (String × Json)}
      (hmembers : encode page = .object members) :
      Shows (.query request) (.replied (.page page)) members
  | delete {request : DeleteRequest} {summary : DeletionSummary} {members : List (String × Json)}
      (hmembers : encode summary = .object members) :
      Shows (.delete request) (.replied (.deleted summary)) members
  | history {id : String} {revisions : List Revision} :
      Shows (.history id) (.replied (.history revisions))
        [("id", .string id), ("revisions", encode revisions)]
  | generate {count : UInt32} {ids : List CaseId} :
      Shows (.generate count) (.generated ids)
        [("case_ids", encode (ids.map CaseId.toText))]

/-- A call and what is made of it for the one who asked: they leave the same and fail the same. -/
inductive Tells (command : Command) :
    Except Failure Answer × Disk → Except Failure (List (String × Json)) × Disk → Prop where
  | ok {answer : Answer} {members : List (String × Json)} {after : Disk}
      (hshows : Shows command answer members) :
      Tells command (.ok answer, after) (.ok members, after)
  | error (failure : Failure) (after : Disk) :
      Tells command (.error failure, after) (.error failure, after)

theorem tells_of_shows {α : Type} {command : Command} (call : Call α) {answers : α → Answer}
    {members : α → List (String × Json)} (hshows : ∀ a, Shows command (answers a) (members a))
    (disk : Disk) :
    Tells command ((answers <$> call) disk) ((call >>= fun a => pure (members a)) disk) := by
  rcases hcall : call disk with ⟨result, after⟩
  cases result with
  | error failure =>
      rw [Steps.map_of_error hcall, Steps.bind_of_error hcall]
      exact .error failure after
  | ok a =>
      rw [Steps.map_of_ok hcall, Steps.bind_of_ok hcall]
      exact .ok (hshows a)

theorem tells_of_replies {α : Type} {command : Command} (call : Call α) {replies : α → Reply}
    {members : α → List (String × Json)}
    (hshows : ∀ a, Shows command (.replied (replies a)) (members a)) (disk : Disk) :
    Tells command ((Answer.replied <$> replies <$> call) disk)
      ((call >>= fun a => pure (members a)) disk) := by
  rw [Functor.map_map]
  exact tells_of_shows call hshows disk

/-- A command tells what the call that it stands for answers. -/
theorem tells_answer (invocation : Invocation) (outside : Outside) (disk : Disk) :
    Tells invocation.command (serviceCall invocation outside disk)
      (answer invocation outside disk) := by
  obtain ⟨path, actor, command⟩ := invocation
  cases command with
  | schemaVersion =>
      exact tells_of_shows (Service.schemaStatus path) (fun _ => .schemaVersion rfl) disk
  | migrate dryRun =>
      exact tells_of_shows (Service.migrate path dryRun) (fun _ => .migrate rfl) disk
  | integrityCheck =>
      exact tells_of_shows (Service.integrityCheck path) (fun _ => .integrityCheck rfl) disk
  | backup target =>
      exact tells_of_shows (Service.backup path target) (fun _ => .backup rfl) disk
  | restore source => exact tells_of_shows (Service.restore path source) (fun _ => .restore) disk
  | create request =>
      exact tells_of_replies
        (Service.create path request (.ok actor) outside.fresh outside.clock)
        (fun _ => .order rfl) disk
  | update request =>
      exact tells_of_replies (Service.update path request outside.clock) (fun _ => .order rfl) disk
  | get id => exact tells_of_replies (Service.get path id) (fun _ => .order rfl) disk
  | query request => exact tells_of_replies (Service.query path request) (fun _ => .query rfl) disk
  | delete request =>
      exact tells_of_replies (Service.delete path request outside.clock) (fun _ => .delete rfl) disk
  | history id => exact tells_of_replies (Service.history path id) (fun _ => .history) disk
  | generate count =>
      have hids : serviceCall ⟨path, actor, .generate count⟩ outside =
          (Answer.generated <$>
            Call.demand (freshCaseIds outside.nanos 0 count.toNat outside.random)) := by
        have hcalls := demand_freshCaseIds outside.nanos outside.random 0 count.toNat
        rw [← List.range_eq_range', show randomAfter outside.random 0 = outside.random from rfl]
          at hcalls
        rw [hcalls]
        rfl
      rw [hids]
      exact tells_of_shows _ (fun _ => .generate) disk

theorem Shows.contract_not_mem {command : Command} {answer : Answer}
    {members : List (String × Json)} (hshows : Shows command answer members) :
    ∀ member ∈ members, member.1 ≠ "contract_version" := by
  cases hshows with
  | schemaVersion hmembers | migrate hmembers | integrityCheck hmembers | backup hmembers
  | order hmembers | query hmembers | delete hmembers =>
      obtain rfl := Json.object.inj hmembers
      simp
  | restore | history | generate => simp

theorem insert_of_new {name : String} {members : List (String × Json)}
    (hnew : ∀ member ∈ members, member.1 ≠ name) (value : Json) :
    Json.insert name value members = members ++ [(name, value)] := by
  induction members with
  | nil => rfl
  | cons member members ih =>
      rw [List.forall_mem_cons] at hnew
      rw [Json.insert, if_neg hnew.1, ih hnew.2]
      rfl

end PaymentOrders.CommandLine
