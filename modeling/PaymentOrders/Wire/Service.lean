import PaymentOrders.Service.Request
import PaymentOrders.Service.Result
import PaymentOrders.Store.Deletion
import PaymentOrders.Store.Integrity
import PaymentOrders.Wire.Domain
/-!
# The wire form of requests and results

A request may leave anything out. The fields of an order stand beside the id of the order that
they are to change.
-/

namespace PaymentOrders.Wire

def orderRequestRecord : Record OrderRequest :=
  OrderRequest.mk <$> Record.defaulted "effective_from" none <*>
    Record.defaulted "case_id" "" <*> Record.defaulted "action" "" <*>
    Record.defaulted "responsible_party" "" <*> Record.defaulted "order_reference" ""

def orderRequestMembers (request : OrderRequest) : List (String × Json) :=
  [("effective_from", encode request.effectiveFrom), ("case_id", encode request.caseId),
    ("action", encode request.action), ("responsible_party", encode request.responsibleParty),
    ("order_reference", encode request.orderReference)]

instance : Wire OrderRequest where
  encode request := .object (orderRequestMembers request)
  decode := orderRequestRecord.decode "CreateCasePaymentOrderRequest"

/-- The member that tells which order to change. -/
def idRecord : Record String :=
  Record.defaulted "id" ""

/-- Reads a request to change an order. The id is judged before the fields, wherever it stands;
only objects have room for both. -/
def decodeUpdate : Json → Except DecodeError UpdateRequest
  | .object members => do
      let id ← idRecord.ofObject members
      let order ← orderRequestRecord.ofObject members
      return ⟨id, order⟩
  | found => wrongKind found "struct UpdateCasePaymentOrderRequest"

instance : Wire UpdateRequest where
  encode request := .object (("id", encode request.id) :: orderRequestMembers request.order)
  decode := decodeUpdate

def queryRequestRecord : Record QueryRequest :=
  QueryRequest.mk <$> Record.defaulted "ids" [] <*> Record.defaulted "case_ids" [] <*>
    Record.optional "page" <*> Record.optional "size"

instance : Wire QueryRequest where
  encode request := .object
    [("ids", encode request.ids), ("case_ids", encode request.caseIds),
      ("page", encode request.page), ("size", encode request.size)]
  decode := queryRequestRecord.decode "CasePaymentOrderQuery"

def deleteRequestRecord : Record Store.DeleteRequest :=
  Store.DeleteRequest.mk <$> Record.defaulted "ids" [] <*> Record.defaulted "case_ids" []

instance : Wire Store.DeleteRequest where
  encode request := .object [("ids", encode request.ids), ("case_ids", encode request.caseIds)]
  decode := deleteRequestRecord.decode "DeleteRequest"

def deletionSummaryRecord : Record Store.DeletionSummary :=
  Store.DeletionSummary.mk <$> Record.required "referent" <*> Record.required "requested" <*>
    Record.required "records_deleted" <*> Record.required "revisions_deleted"

instance : Wire Store.DeletionSummary where
  encode summary := .object
    [("referent", encode summary.referent), ("requested", encode summary.requested),
      ("records_deleted", encode summary.recordsDeleted),
      ("revisions_deleted", encode summary.revisionsDeleted)]
  decode := deletionSummaryRecord.decode "DeletionSummary"

def schemaStatusRecord : Record Store.SchemaStatus :=
  Store.SchemaStatus.mk <$> Record.required "current_version" <*>
    Record.required "target_version" <*> Record.required "pending_versions"

instance : Wire Store.SchemaStatus where
  encode status := .object
    [("current_version", encode status.currentVersion),
      ("target_version", encode status.targetVersion),
      ("pending_versions", encode status.pendingVersions)]
  decode := schemaStatusRecord.decode "SchemaStatus"

def integrityReportRecord : Record Store.IntegrityReport :=
  Store.IntegrityReport.mk <$> Record.required "quick_check_ok" <*>
    Record.required "quick_check_message" <*>
    Record.required "orders_without_created_revision" <*>
    Record.required "orphaned_revision_record_ids" <*> Record.required "schema_status"

instance : Wire Store.IntegrityReport where
  encode report := .object
    [("quick_check_ok", encode report.quickCheckOk),
      ("quick_check_message", encode report.quickCheckMessage),
      ("orders_without_created_revision", encode report.ordersWithoutCreatedRevision),
      ("orphaned_revision_record_ids", encode report.orphanedRevisionRecordIds),
      ("schema_status", encode report.schemaStatus)]
  decode := integrityReportRecord.decode "IntegrityReport"

def migrateResultRecord : Record MigrateResult :=
  MigrateResult.mk <$> Record.required "dry_run" <*> Record.required "current_version" <*>
    Record.required "target_version" <*> Record.required "would_apply_versions" <*>
    Record.optional "after_version" <*> Record.optional "up_to_date"

instance : Wire MigrateResult where
  encode result := .object
    [("dry_run", encode result.dryRun), ("current_version", encode result.currentVersion),
      ("target_version", encode result.targetVersion),
      ("would_apply_versions", encode result.wouldApplyVersions),
      ("after_version", encode result.afterVersion), ("up_to_date", encode result.upToDate)]
  decode := migrateResultRecord.decode "MigrateResult"

def backupResultRecord : Record BackupResult :=
  BackupResult.mk <$> Record.required "backup_path" <*> Record.required "schema_version"

instance : Wire BackupResult where
  encode result := .object
    [("backup_path", encode result.backupPath), ("schema_version", encode result.schemaVersion)]
  decode := backupResultRecord.decode "BackupResult"

end PaymentOrders.Wire
