import PaymentOrders.CommandLine.Command
import PaymentOrders.Service
import PaymentOrders.Wire.Service
/-!
# The command line

Each command is one call of the service. What the call answers is printed as a document; a
failure is printed as its report, and its kind tells the exit status.
-/

namespace PaymentOrders.CommandLine

open Wire (encode)

def contractVersion : String := "cli.v1"

structure Outside where
  /-- The id of an order that the command creates. -/
  fresh : OrderId
  clock : Store.Clock
  /-- The time at which each fresh case id is made, in nanoseconds since 1970. -/
  nanos : Nat → Int
  /-- The random bytes that fresh case ids are made of. -/
  random : List UInt8

def freshCaseIds (nanos : Nat → Int) : Nat → Nat → List UInt8 → Except OrderError (List CaseId)
  | _, 0, _ => .ok []
  | i, count + 1, random => do
      let (text, rest) ← CaseId.generateText (nanos i) random
      let id ← (CaseId.parse text).mapError .validation
      let ids ← freshCaseIds nanos (i + 1) count rest
      return id :: ids

def membersOf : Json → List (String × Json)
  | .object members => members
  | value => [("payload", value)]

def withContract (members : List (String × Json)) : Json :=
  .object (Json.insert "contract_version" (.string contractVersion) members)

/-- Runs a command, and gives the members of what it prints. -/
def answer (invocation : Invocation) (outside : Outside) : Call (List (String × Json)) := do
  let path := invocation.database
  match invocation.command with
  | .schemaVersion =>
      let status ← Service.schemaStatus path
      return membersOf (encode status) ++
        [("up_to_date", encode status.pendingVersions.isEmpty)]
  | .migrate dryRun =>
      return membersOf (encode (← Service.migrate path dryRun))
  | .integrityCheck =>
      let report ← Service.integrityCheck path
      return membersOf (encode report) ++ [("consistent", encode report.isConsistent)]
  | .backup target =>
      return membersOf (encode (← Service.backup path target))
  | .restore source =>
      let status ← Service.restore path source
      return [("restored_from", encode source), ("current_version", encode status.currentVersion),
        ("up_to_date", encode status.pendingVersions.isEmpty)]
  | .create request =>
      let order ← Service.create path request (.ok invocation.actor) outside.fresh outside.clock
      return membersOf (encode order)
  | .update request =>
      return membersOf (encode (← Service.update path request outside.clock))
  | .get id =>
      return membersOf (encode (← Service.get path id))
  | .query request =>
      return membersOf (encode (← Service.query path request))
  | .delete request =>
      return membersOf (encode (← Service.delete path request outside.clock))
  | .history id =>
      let revisions ← Service.history path id
      return [("id", encode id), ("revisions", encode revisions)]
  | .generate count =>
      let ids ← Call.demand (freshCaseIds outside.nanos 0 count.toNat outside.random)
      return [("case_ids", encode (ids.map CaseId.toText))]

inductive Ending where
  /-- The command succeeded. -/
  | printed (document : Json)
  /-- The command failed. -/
  | failed (report : ErrorReport)
  | help
  /-- The arguments were not understood. -/
  | refused

namespace Ending

def statusOfKind : ErrorKind → Nat
  | .fatal => 1
  | .validation => 2
  | .notFound => 3
  | .conflict => 4

def status : Ending → Nat
  | printed _ | help => 0
  | failed report => statusOfKind report.kind
  | refused => 2

def errorDocument (report : ErrorReport) : Json :=
  .object [("contract_version", .string contractVersion), ("error", encode report)]

end Ending

def run (arguments : List String) (outside : Outside) (disk : Disk) : Ending × Disk :=
  match Request.ofArguments arguments with
  | .help => (.help, disk)
  | .refused => (.refused, disk)
  | .run invocation =>
      match answer invocation outside disk with
      | (.ok members, changed) => (.printed (withContract members), changed)
      | (.error failure, changed) => (.failed (.ofFailure failure), changed)

end PaymentOrders.CommandLine
