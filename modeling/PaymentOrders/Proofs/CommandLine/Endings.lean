import PaymentOrders.Proofs.CommandLine.Calls
import PaymentOrders.Proofs.Service.Failed
/-!
# How the program ends

The program is the service, seen through a command line. Arguments that it does not understand
leave the disk alone; for all others the disk and the exit status are those of one call, and what
is printed is its answer or its failure.
-/

namespace PaymentOrders.CommandLine

open Service Store

/-- How the program ends for a command, and what it leaves, as the call of the service decides. -/
structure Performs (invocation : Invocation) (outside : Outside) (disk : Disk) (ending : Ending)
    (after : Disk) : Prop where
  left : after = (serviceCall invocation outside disk).2
  succeeds : ending.status = 0 ↔ ∃ answer, (serviceCall invocation outside disk).1 = .ok answer
  prints : ∀ answer, (serviceCall invocation outside disk).1 = .ok answer → ∃ members,
    Shows invocation.command answer members ∧
      ending = .printed (.object (members ++ [("contract_version", .string "cli.v1")]))
  reports : ∀ failure, (serviceCall invocation outside disk).1 = .error failure →
    ending = .failed (.ofFailure failure) ∧
      (failure.kind, ending.status) ∈
        [(ErrorKind.fatal, 1), (.validation, 2), (.notFound, 3), (.conflict, 4)]
  spares : invocation.command.path.head? = some "order" → ending.status ≠ 0 →
    Spares invocation.database disk after

section Endings

variable {arguments : List String} {invocation : Invocation}

theorem kind_ofFailure (failure : Failure) :
    (ErrorReport.ofFailure failure).kind = failure.kind := by
  rw [ErrorReport.ofFailure, Failure.kind]
  cases failure.domainError? <;> rfl

theorem status_of_failed (failure : Failure) :
    (failure.kind, (Ending.failed (.ofFailure failure)).status) ∈
      [(ErrorKind.fatal, 1), (.validation, 2), (.notFound, 3), (.conflict, 4)] := by
  rw [Ending.status, kind_ofFailure]
  cases failure.kind <;> decide

theorem run_of_help (hasks : grammar.AsksHelp [] arguments) (outside : Outside) (disk : Disk) :
    run arguments outside disk = (.help, disk) := by
  rw [run, ofArguments_eq_help_iff.mpr hasks]

theorem run_of_refused (hhelp : ¬ grammar.AsksHelp [] arguments)
    (hreads : ∀ path options, ¬ grammar.Reads [] arguments path options) (outside : Outside)
    (disk : Disk) : run arguments outside disk = (.refused, disk) := by
  have hinvokes : ∀ invocation, ¬ Invokes arguments invocation :=
    fun _ ⟨options, hoptions, _⟩ => hreads _ options hoptions
  rw [run, ofArguments_eq_refused_iff.mpr ⟨hhelp, hinvokes⟩]

theorem run_of_ok (hinvokes : Invokes arguments invocation) {outside : Outside} {disk after : Disk}
    {members : List (String × Json)}
    (hanswer : answer invocation outside disk = (.ok members, after)) :
    run arguments outside disk = (.printed (withContract members), after) := by
  rw [run, ofArguments_eq_run_iff.mpr hinvokes]
  simp only [hanswer]

theorem run_of_error (hinvokes : Invokes arguments invocation) {outside : Outside}
    {disk after : Disk} {failure : Failure}
    (hanswer : answer invocation outside disk = (.error failure, after)) :
    run arguments outside disk = (.failed (.ofFailure failure), after) := by
  rw [run, ofArguments_eq_run_iff.mpr hinvokes]
  simp only [hanswer]

theorem exists_orderCall (horder : invocation.command.path.head? = some "order")
    (outside : Outside) : ∃ call : OrderCall,
      serviceCall invocation outside = Answer.replied <$> call.perform invocation.database := by
  obtain ⟨path, actor, command⟩ := invocation
  cases command with
  | create | update | get | query | delete | history => exact ⟨_, rfl⟩
  | schemaVersion | migrate | integrityCheck | backup | restore | generate =>
      exact absurd horder (by simp [Command.path])

theorem spares_of_order (horder : invocation.command.path.head? = some "order") {outside : Outside}
    {disk after : Disk} {failure : Failure}
    (hfailed : serviceCall invocation outside disk = (.error failure, after)) :
    Spares invocation.database disk after := by
  obtain ⟨call, hcall⟩ := exists_orderCall horder outside
  rcases hperform : call.perform invocation.database disk with ⟨result, left⟩
  rw [hcall, Steps.map_apply, hperform] at hfailed
  obtain ⟨hresult, rfl⟩ := Prod.mk.inj hfailed
  cases result with
  | ok reply => cases hresult
  | error found =>
      have hspares := spares_of_failed (congrArg Prod.fst hperform)
      rwa [hperform] at hspares

theorem performs_of_ok {outside : Outside} {disk after : Disk} {told : Answer}
    {members : List (String × Json)}
    (hcall : serviceCall invocation outside disk = (.ok told, after))
    (hshows : Shows invocation.command told members) :
    Performs invocation outside disk (.printed (withContract members)) after where
  left := by rw [hcall]
  succeeds := by
    rw [hcall]
    exact iff_of_true rfl ⟨told, rfl⟩
  prints answer hok := by
    rw [hcall] at hok
    cases hok
    refine ⟨members, hshows, ?_⟩
    rw [withContract, insert_of_new hshows.contract_not_mem]
    rfl
  reports failure herror := by
    rw [hcall] at herror
    cases herror
  spares _ hstatus := absurd rfl hstatus

theorem performs_of_error {outside : Outside} {disk after : Disk} {failure : Failure}
    (hcall : serviceCall invocation outside disk = (.error failure, after)) :
    Performs invocation outside disk (.failed (.ofFailure failure)) after where
  left := by rw [hcall]
  succeeds := by
    have hstatus := status_of_failed failure
    rw [hcall]
    refine iff_of_false (fun hzero => ?_) (by simp)
    simp [hzero] at hstatus
  prints answer hok := by
    rw [hcall] at hok
    cases hok
  reports found herror := by
    rw [hcall] at herror
    cases herror
    exact ⟨rfl, status_of_failed failure⟩
  spares horder _ := spares_of_order horder hcall

/-- A command that is given ends as its call decides. -/
theorem performs_of_invokes (hinvokes : Invokes arguments invocation) (outside : Outside)
    (disk : Disk) :
    Performs invocation outside disk (run arguments outside disk).1
      (run arguments outside disk).2 := by
  have htells := tells_answer invocation outside disk
  rcases hcall : serviceCall invocation outside disk with ⟨result, after⟩
  rcases hanswer : answer invocation outside disk with ⟨shown, left⟩
  rw [hcall, hanswer] at htells
  cases htells with
  | ok hshows =>
      rw [run_of_ok hinvokes hanswer]
      exact performs_of_ok hcall hshows
  | error failure _ =>
      rw [run_of_error hinvokes hanswer]
      exact performs_of_error hcall

end Endings

/-- The program is the service, seen through a command line. A request for help, and arguments that
are neither that nor read as a command, leave the disk as it is, with exit status zero and two.
Arguments that are read give a command; it is well given, and the program performs its call. -/
theorem commands_are_service_calls (arguments : List String) (outside : Outside) (disk : Disk) :
    (grammar.AsksHelp [] arguments →
      (run arguments outside disk).1.status = 0 ∧ (run arguments outside disk).2 = disk) ∧
    (¬ grammar.AsksHelp [] arguments →
      (∀ path options, ¬ grammar.Reads [] arguments path options) →
      (run arguments outside disk).1.status = 2 ∧ (run arguments outside disk).2 = disk) ∧
    (∀ path options, grammar.Reads [] arguments path options →
      ∃ invocation, Invokes arguments invocation ∧ invocation.command.path = path) ∧
    ∀ invocation, Invokes arguments invocation →
      WellGiven arguments invocation.command ∧
      Performs invocation outside disk (run arguments outside disk).1
        (run arguments outside disk).2 := by
  refine ⟨fun hasks => ?_, fun hhelp hreads => ?_, fun path options hreads => ?_,
    fun invocation hinvokes => ?_⟩
  · rw [run_of_help hasks]
    exact ⟨rfl, rfl⟩
  · rw [run_of_refused hhelp hreads]
    exact ⟨rfl, rfl⟩
  · exact exists_invokes hreads
  · exact ⟨hinvokes.wellGiven, performs_of_invokes hinvokes outside disk⟩

/-! ## An order that is not there -/

def Sample.disk : Disk := ⟨[(["orders.db"], .database Store.Sample.oneOrder)]⟩

def Sample.outside : Outside where
  fresh := Store.Sample.secondId
  clock := Store.Sample.clock
  nanos _ := 0
  random := []

def Sample.missing : List String :=
  ["--db", "orders.db", "order", "get", "--id", "00000000000000000000000002"]

/-- Help, an order without its id, and an order that is not there. -/
theorem commands_are_service_calls_missing :
    (run ["--help"] Sample.outside Sample.disk).1.status = 0 ∧
      (run ["order", "get"] Sample.outside Sample.disk).1.status = 2 ∧
      Invokes Sample.missing
        ⟨"orders.db", "cpo-cli", .get "00000000000000000000000002"⟩ ∧
      (run Sample.missing Sample.outside Sample.disk).1.status = 3 ∧
      Spares "orders.db" Sample.disk (run Sample.missing Sample.outside Sample.disk).2 := by
  have hhelp : grammar.AsksHelp [] ["--help"] := ofArguments_eq_help_iff.mp (by decide +kernel)
  have hrefused := ofArguments_eq_refused_iff.mp
    (by decide +kernel : Request.ofArguments ["order", "get"] = .refused)
  have hunread : ∀ path options, ¬ grammar.Reads [] ["order", "get"] path options := by
    intro path options hreads
    obtain ⟨invocation, hinvokes, _⟩ := exists_invokes hreads
    exact hrefused.2 invocation hinvokes
  have hinvokes : Invokes Sample.missing
      ⟨"orders.db", "cpo-cli", .get "00000000000000000000000002"⟩ :=
    ofArguments_eq_run_iff.mp (by decide +kernel)
  have hcall : (serviceCall ⟨"orders.db", "cpo-cli", .get "00000000000000000000000002"⟩
      Sample.outside Sample.disk).1 =
        .error (unknownId Store.Sample.secondId) := by
    decide +kernel
  obtain ⟨_, hperforms⟩ :=
    (commands_are_service_calls Sample.missing Sample.outside Sample.disk).2.2.2 _ hinvokes
  have hstatus : (run Sample.missing Sample.outside Sample.disk).1.status = 3 := by
    have hkind : (unknownId Store.Sample.secondId).kind = .notFound := rfl
    have hreported := (hperforms.reports _ hcall).2
    rw [hkind] at hreported
    simpa using hreported
  refine ⟨?_, ?_, hinvokes, hstatus, hperforms.spares rfl (by rw [hstatus]; decide)⟩
  · exact ((commands_are_service_calls ["--help"] Sample.outside Sample.disk).1 hhelp).1
  · exact ((commands_are_service_calls ["order", "get"] Sample.outside Sample.disk).2.1
      hrefused.1 hunread).1

/-! ## A verdict beside the answer -/

def Sample.report : IntegrityReport where
  quickCheckOk := true
  quickCheckMessage := "ok"
  ordersWithoutCreatedRevision := []
  orphanedRevisionRecordIds := []
  schemaStatus := ⟨1, 1, []⟩

def Sample.lookedOver : List String := ["--db", "orders.db", "db", "integrity-check"]

/-- Looking a database over shows more than what the service answers. -/
theorem integrity_check_shows_more :
    Invokes Sample.lookedOver ⟨"orders.db", "cpo-cli", .integrityCheck⟩ ∧
      (Service.integrityCheck "orders.db" Sample.disk).1 = .ok Sample.report ∧
      ∃ members, Wire.encode Sample.report = .object members ∧
        (run Sample.lookedOver Sample.outside Sample.disk).1 ≠
          .printed (.object (members ++ [("contract_version", .string "cli.v1")])) := by
  have hinvokes : Invokes Sample.lookedOver ⟨"orders.db", "cpo-cli", .integrityCheck⟩ :=
    ofArguments_eq_run_iff.mp (by decide +kernel)
  have hanswer : (Service.integrityCheck "orders.db" Sample.disk).1 = .ok Sample.report := by
    decide +kernel
  have hcall : (serviceCall ⟨"orders.db", "cpo-cli", .integrityCheck⟩ Sample.outside
      Sample.disk).1 = .ok (.checked Sample.report) := by
    decide +kernel
  obtain ⟨shown, hshows, hprinted⟩ :=
    (performs_of_invokes hinvokes Sample.outside Sample.disk).prints _ hcall
  refine ⟨hinvokes, hanswer, ?_⟩
  cases hshows with
  | @integrityCheck _ members hmembers =>
      refine ⟨members, hmembers, fun hsame => ?_⟩
      rw [hprinted] at hsame
      have hlength := congrArg List.length (Json.object.inj (Ending.printed.inj hsame))
      simp at hlength

end PaymentOrders.CommandLine
