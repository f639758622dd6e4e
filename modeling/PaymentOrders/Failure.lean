import PaymentOrders.Order
import PaymentOrders.OrderFilter
import PaymentOrders.Timestamp.Text
/-!
# Failures

Why a call failed: an error of the domain, or a fault of the storage, and what was being done
when it arose. `ErrorReport.ofFailure` is the view that a caller gets: a domain error tells its
own text, a fault everything that is known.
-/

namespace PaymentOrders

inductive TableName where
  | versions
  | orders
  | trail
  deriving DecidableEq, Repr

def TableName.text : TableName → String
  | versions => "schema_migrations"
  | orders => "case_payment_orders"
  | trail => "case_payment_orders_audit"

inductive Violation where
  /-- A column that must hold something holds nothing. -/
  | notNull
  /-- A value is outside of what its column allows. -/
  | check
  /-- Another row has the same key. -/
  | duplicateKey
  /-- Another order has the same case id and order reference. -/
  | duplicatePair
  deriving DecidableEq, Repr

inductive Obstacle where
  /-- A name on the way is not there. -/
  | missing
  /-- A name on the way is a file. -/
  | notADirectory
  /-- The directory itself is a file. -/
  | taken
  | nameTooLong
  | nulCharacter
  deriving DecidableEq, Repr

def Obstacle.text : Obstacle → String
  | missing => "No such file or directory (os error 2)"
  | notADirectory => "Not a directory (os error 20)"
  | taken => "File exists (os error 17)"
  | nameTooLong => "File name too long (os error 36)"
  | nulCharacter => "file name contained an unexpected NUL byte"

inductive Refusal where
  | notADatabase
  | cannotOpen
  | cannotRead
  | cannotDelete
  | readOnly
  deriving DecidableEq, Repr

def Refusal.text : Refusal → String
  | notADatabase => "file is not a database"
  | cannotOpen => "unable to open database file"
  | cannotRead | cannotDelete => "disk I/O error"
  | readOnly => "attempt to write a readonly database"

def Refusal.codeText : Refusal → String
  | notADatabase => "Error code 26: File opened that is not a database file"
  | cannotOpen => "Error code 14: Unable to open the database file"
  | cannotRead => "Error code 266: Error reading from disk"
  | cannotDelete => "Error code 2570: I/O error within xDelete of a VFS object"
  | readOnly => "Error code 8: Attempt to write a readonly database"

inductive Fault where
  | noSuchTable (table : TableName)
  | rejectedRow (table : TableName) (violation : Violation)
  | counterExhausted
  | cannotOpen (path : String)
  | nulInPath (position : Nat)
  | unknownAuthority (name : String)
  | unknownAccess (name : String)
  | unknownCache (name : String)
  | unknownSystem (name : String)
  | refused (refusal : Refusal)
  /-- A copy is refused, or it does not fit the database that it is to replace. -/
  | copyRefused (refusal : Refusal)
  /-- The content that replaced that of a database is in another encoding. -/
  | otherEncoding
  | cannotMakeDirectory (obstacle : Obstacle)
  | missingBackup (path : String)
  | unsupportedVersion (version target : Int)
  | otherVersion (version target : Int)
  | countMismatch (deleted matched : Nat)
  | nullColumn (index : Nat) (name : String)
  | orderId (error : OrderId.TextError)
  | timestamp (error : Timestamp.TextError)
  | negativeCaseId
  | unknownChange (name : String)
  /-- Any other fault, in its own words. -/
  | other (text : String)
  deriving DecidableEq, Repr

inductive Context where
  | openingDatabase (path : String)
  | configuringDatabase
  | makingVersionsTable
  | insertingOrder
  | updatingOrder
  | appendingRevision (change : ChangeType) (id : OrderId)
  | countingOrders
  | deletingOrders
  | purgingByRecord
  | purgingByCase
  | checkingCreated
  | checkingOrphans
  | readingOrderId (raw : String)
  | readingTimestamp (raw : String)
  | readingNegativeCaseId (raw : Int)
  | readingCaseId (raw : Int)
  | creatingBackupParent (path : String)
  | backingUp (path : String)
  | restoring (path : String)
  /-- Anything else, in the words of who adds it. -/
  | note (text : String)
  deriving DecidableEq

def Context.text : Context → String
  | openingDatabase path => s!"failed to open sqlite database at {path}"
  | configuringDatabase => "failed to configure sqlite pragmas"
  | makingVersionsTable => "failed to apply schema_migrations table"
  | insertingOrder => "failed to insert case payment order"
  | updatingOrder => "failed to update case payment order"
  | appendingRevision change id =>
      s!"failed to append {ChangeType.name change} revision for {OrderId.toText id}"
  | countingOrders => "failed to count case payment orders"
  | deletingOrders => "failed to delete case payment orders"
  | purgingByRecord => "failed to delete audit revisions by record id"
  | purgingByCase => "failed to delete audit revisions by case id"
  | checkingCreated => "failed to check orders without a created revision"
  | checkingOrphans => "failed to check orphaned audit revisions"
  | readingOrderId raw => s!"invalid ULID: {raw}"
  | readingTimestamp raw => s!"invalid RFC3339 timestamp: {raw}"
  | readingNegativeCaseId raw => s!"stored case id is negative: {raw}"
  | readingCaseId raw => s!"stored case id is invalid: {raw}"
  | creatingBackupParent path => s!"failed to create parent directory for backup file {path}"
  | backingUp path => s!"failed to create sqlite backup at {path}"
  | restoring path => s!"failed to restore sqlite backup from {path}"
  | note text => text

/-- The texts of a row that its table rejects: what is wrong, and the code for it. -/
def Violation.texts (table : TableName) : Violation → List String
  | notNull =>
      [s!"NOT NULL constraint failed: {TableName.text table}",
        "Error code 1299: A NOT NULL constraint failed"]
  | check =>
      [s!"CHECK constraint failed: {TableName.text table}",
        "Error code 275: A CHECK constraint failed"]
  | duplicateKey =>
      [s!"UNIQUE constraint failed: {TableName.text table}.id",
        "Error code 1555: A PRIMARY KEY constraint failed"]
  | duplicatePair =>
      [s!"UNIQUE constraint failed: {TableName.text table}.case_id, " ++
          s!"{TableName.text table}.order_reference",
        "Error code 2067: A UNIQUE constraint failed"]

def timestampTexts (error : Timestamp.TextError) : List String :=
  match error with
  | .range _ => [error.text, error.text, error.text]
  | _ => [error.text, error.text]

/-- The texts of a fault, from what was seen to its cause. -/
def Fault.texts : Fault → List String
  | noSuchTable table =>
      [s!"no such table: {TableName.text table}", "Error code 1: SQL error or missing database"]
  | rejectedRow table violation => violation.texts table
  | counterExhausted =>
      ["database or disk is full", "Error code 13: Insertion failed because database is full"]
  | cannotOpen path =>
      [s!"unable to open database file: {path}",
        "Error code 14: Unable to open the database file"]
  | nulInPath position =>
      List.replicate 2 s!"nul byte found in provided data at position: {position}"
  | unknownAuthority name =>
      [s!"invalid uri authority: {name}", "Error code 1: SQL error or missing database"]
  | unknownAccess name =>
      [s!"no such access mode: {name}", "Error code 1: SQL error or missing database"]
  | unknownCache name =>
      [s!"no such cache mode: {name}", "Error code 1: SQL error or missing database"]
  | unknownSystem name =>
      [s!"no such vfs: {name}", "Error code 1: SQL error or missing database"]
  | refused refusal => [refusal.text, refusal.codeText]
  | copyRefused refusal => ["not an error", refusal.codeText]
  | otherEncoding =>
      ["attached databases must use the same text encoding as main database",
        "Error code 1: SQL error or missing database"]
  | cannotMakeDirectory obstacle => [obstacle.text]
  | missingBackup path => [s!"backup file does not exist: {path}"]
  | unsupportedVersion version target =>
      [s!"unsupported schema version {version}; expected at most {target}"]
  | otherVersion version target => [s!"unsupported schema version {version}; expected {target}"]
  | countMismatch deleted matched =>
      [s!"deleted {deleted} case payment orders but matched {matched}"]
  | nullColumn index name => [s!"Invalid column type Null at index: {index}, name: {name}"]
  | orderId error => [error.text]
  | timestamp error => timestampTexts error
  | negativeCaseId => ["number too small to fit in target type"]
  | unknownChange name => [s!"invalid change_type in audit row: {name}"]
  | other text => [text]

inductive Cause where
  | error (failed : OrderError)
  | fault (found : Fault)
  deriving DecidableEq

def Cause.texts : Cause → List String
  | .error failed => [failed.text]
  | .fault found => found.texts

/-- Why a call failed, and what was being done, outermost first. -/
structure Failure where
  contexts : List Context
  cause : Cause
  deriving DecidableEq

namespace Failure

def ofError (error : OrderError) : Failure := ⟨[], .error error⟩

def ofFault (fault : Fault) : Failure := ⟨[], .fault fault⟩

instance : Coe String Failure where
  coe text := ofFault (.other text)

/-- The failure, seen from what was being done around it. -/
def within (failure : Failure) (context : Context) : Failure :=
  { failure with contexts := context :: failure.contexts }

def domainError? (failure : Failure) : Option OrderError :=
  match failure.cause with
  | .error failed => some failed
  | .fault _ => none

/-- Everything that is known, outermost first. -/
def texts (failure : Failure) : List String :=
  failure.contexts.map Context.text ++ failure.cause.texts

def headline (failure : Failure) : String :=
  failure.texts.headD ""

/-- The kind of a failure: that of its domain error, and fatal without one. -/
def kind (failure : Failure) : ErrorKind :=
  (failure.domainError?.map OrderError.kind).getD .fatal

end Failure

structure ErrorReport where
  kind : ErrorKind
  message : String
  issues : List Issue
  deriving DecidableEq

/-- The report of a failure. What was being done is told only where no domain error says what
is wrong. -/
def ErrorReport.ofFailure (failure : Failure) : ErrorReport :=
  match failure.domainError? with
  | some error => ⟨error.kind, error.text, error.issues⟩
  | none => ⟨.fatal, ": ".intercalate failure.texts, []⟩

end PaymentOrders
