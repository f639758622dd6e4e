import PaymentOrders.CommandLine.Arguments
import PaymentOrders.Service.Request
import PaymentOrders.Store.Deletion
import PaymentOrders.Text.Decimal
import PaymentOrders.Timestamp.Text
/-!
# Commands

The commands of the program and the options that each of them takes.
-/

namespace PaymentOrders.CommandLine

inductive Command where
  | schemaVersion
  | migrate (dryRun : Bool)
  | integrityCheck
  | backup (target : String)
  | restore (source : String)
  | create (request : OrderRequest)
  | update (request : UpdateRequest)
  | get (id : String)
  | query (request : QueryRequest)
  | delete (request : Store.DeleteRequest)
  | history (id : String)
  | generate (count : UInt32)
  deriving DecidableEq

/-- A command, the database that it is about and who gives it. -/
structure Invocation where
  database : String
  actor : String
  command : Command
  deriving DecidableEq

def textOption (name : String) (required : Bool) : OptionRule :=
  ⟨name, .once, required, fun _ => true⟩

def textsOption (name : String) : OptionRule :=
  ⟨name, .many, false, fun _ => true⟩

def pathOption (name : String) (required : Bool) : OptionRule :=
  ⟨name, .once, required, fun value => value != ""⟩

/-- An unsigned number in decimal, behind a sign if there is one. -/
def readUnsigned (value : String) : Option Nat :=
  match value.toList with
  | '+' :: ds => digits ds
  | '-' :: ds => (digits ds).filter fun n => n == 0
  | ds => digits ds
where
  /-- The number of a text of one digit or more. -/
  digits (ds : List Char) : Option Nat :=
    if !ds.isEmpty && ds.all Char.isDigit then some (Text.decimalValue ds) else none

def readWord (value : String) : Option UInt32 :=
  (readUnsigned value).bind fun n => if n < UInt32.size then some n.toUInt32 else none

def numberOption (name : String) : OptionRule :=
  ⟨name, .once, false, fun value => (readWord value).isSome⟩

def timestampOption (name : String) : OptionRule :=
  ⟨name, .once, true, fun value => (Timestamp.ofText value).toOption.isSome⟩

def fieldOptions : List OptionRule :=
  [textOption "case-id" true, textOption "order-reference" true, textOption "action" true,
    textOption "responsible-party" true, timestampOption "effective-from"]

def keyOptions : List OptionRule :=
  [textsOption "id", textsOption "case-id"]

def options : List String → List OptionRule
  | [] => [pathOption "db" false, textOption "actor" false]
  | ["db", "migrate"] => [⟨"dry-run", .flag, false, fun _ => true⟩]
  | ["db", "backup"] => [pathOption "out" true]
  | ["db", "restore"] => [pathOption "in" true]
  | ["order", "create"] => fieldOptions
  | ["order", "update"] => textOption "id" true :: fieldOptions
  | ["order", "get"] | ["order", "history"] => [textOption "id" true]
  | ["order", "query"] => keyOptions ++ [numberOption "page", numberOption "size"]
  | ["order", "delete"] => keyOptions
  | ["uid", "generate"] => [numberOption "count"]
  | _ => []

def commandsBelow : List String → List String
  | [] => ["db", "order", "uid"]
  | ["db"] => ["schema-version", "migrate", "integrity-check", "backup", "restore"]
  | ["order"] => ["create", "update", "get", "query", "delete", "history"]
  | ["uid"] => ["generate"]
  | _ => []

def grammar : Grammar := ⟨options, commandsBelow, 3⟩

def Given.text (name : String) (given : Given) : String :=
  (given.value? name).getD ""

def Given.order (given : Given) : OrderRequest where
  effectiveFrom := (given.value? "effective-from").bind fun text =>
    (Timestamp.ofText text).toOption
  caseId := given.text "case-id"
  action := given.text "action"
  responsibleParty := given.text "responsible-party"
  orderReference := given.text "order-reference"

/-- The command at the end of a path. -/
def Command.ofGiven? (path : List String) (given : Given) : Option Command :=
  match path with
  | ["db", "schema-version"] => some .schemaVersion
  | ["db", "migrate"] => some (.migrate (given.has "dry-run"))
  | ["db", "integrity-check"] => some .integrityCheck
  | ["db", "backup"] => some (.backup (given.text "out"))
  | ["db", "restore"] => some (.restore (given.text "in"))
  | ["order", "create"] => some (.create given.order)
  | ["order", "update"] => some (.update ⟨given.text "id", given.order⟩)
  | ["order", "get"] => some (.get (given.text "id"))
  | ["order", "query"] =>
      some <| .query {
        ids := given.values "id"
        caseIds := given.values "case-id"
        page := (given.value? "page").bind readWord
        size := (given.value? "size").bind readWord }
  | ["order", "delete"] => some (.delete ⟨given.values "id", given.values "case-id"⟩)
  | ["order", "history"] => some (.history (given.text "id"))
  | ["uid", "generate"] =>
      some (.generate (((given.value? "count").bind readWord).getD 1))
  | _ => none

def defaultDatabase : String := "./case_payment_orders.sqlite3"

def defaultActor : String := "cpo-cli"

inductive Request where
  | help
  | refused
  | run (invocation : Invocation)
  deriving DecidableEq

def Request.ofArguments (arguments : List String) : Request :=
  match grammar.read arguments with
  | .help => .help
  | .refused => .refused
  | .accepted path given =>
      match Command.ofGiven? path given with
      | some command =>
          .run {
            database := (given.value? "db").getD defaultDatabase
            actor := (given.value? "actor").getD defaultActor
            command }
      | none => .refused

end PaymentOrders.CommandLine
