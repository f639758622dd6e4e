import PaymentOrders.Failure
import PaymentOrders.Page
import PaymentOrders.Wire.Record
/-!
# The wire form of the domain

Case ids are numbers on the wire, order ids and timestamps texts. A filter names its kind of
key beside the keys; an issue names its kind among its own members.
-/

namespace PaymentOrders.Wire

instance : Wire CaseId where
  encode id := .integer id.number
  decode found := do
    let n ← decodeNatural maxWord64 "u64" found
    (CaseId.ofNumber n).mapError .caseId

def errorKindNames : List String :=
  [ErrorKind.validation, .conflict, .notFound, .fatal].map ErrorKind.name

def errorKindOfName? (name : String) : Option ErrorKind :=
  [ErrorKind.validation, .conflict, .notFound, .fatal].find? fun kind => kind.name == name

instance : Wire ErrorKind where
  encode kind := .string kind.name
  decode := decodeVariant errorKindNames errorKindOfName?

def referentNames : List String :=
  [Referent.id, .caseId].map Referent.name

def referentOfName? (name : String) : Option Referent :=
  [Referent.id, .caseId].find? fun referent => referent.name == name

instance : Wire Referent where
  encode referent := .string referent.name
  decode := decodeVariant referentNames referentOfName?

def changeNames : List String :=
  [ChangeType.created, .modified, .deleted].map ChangeType.name

instance : Wire ChangeType where
  encode change := .string change.name
  decode := decodeVariant changeNames ChangeType.ofName?

def orderFieldsRecord : Record OrderFields :=
  OrderFields.mk <$> Record.required "effective_from" <*> Record.required "case_id" <*>
    Record.required "action" <*> Record.required "responsible_party" <*>
    Record.required "order_reference"

instance : Wire OrderFields where
  encode fields := .object
    [("effective_from", encode fields.effectiveFrom), ("case_id", encode fields.caseId),
      ("action", encode fields.action), ("responsible_party", encode fields.responsibleParty),
      ("order_reference", encode fields.orderReference)]
  decode := orderFieldsRecord.decode "CasePaymentOrderFields"

def orderRecord : Record Order :=
  Order.mk <$> Record.required "id" <*> Record.required "case_id" <*>
    Record.required "order_reference" <*> Record.required "action" <*>
    Record.required "responsible_party" <*> Record.required "effective_from" <*>
    Record.required "created_timestamp" <*> Record.required "created_by"

instance : Wire Order where
  encode order := .object
    [("id", encode order.id), ("case_id", encode order.caseId),
      ("order_reference", encode order.orderReference), ("action", encode order.action),
      ("responsible_party", encode order.responsibleParty),
      ("effective_from", encode order.effectiveFrom),
      ("created_timestamp", encode order.createdTimestamp),
      ("created_by", encode order.createdBy)]
  decode := orderRecord.decode "CasePaymentOrder"

def revisionRecord : Record Revision :=
  Revision.mk <$> Record.required "revision_number" <*> Record.required "record_id" <*>
    Record.required "change_type" <*> Record.required "revision_timestamp" <*>
    Record.optional "snapshot"

instance : Wire Revision where
  encode revision := .object
    [("revision_number", encode revision.number), ("record_id", encode revision.recordId),
      ("change_type", encode revision.changeType),
      ("revision_timestamp", encode revision.timestamp),
      ("snapshot", encode revision.snapshot)]
  decode := revisionRecord.decode "AuditRevision"

def pageRequestRecord : Record PageRequest :=
  PageRequest.mk <$> Record.required "page" <*> Record.required "size"

instance : Wire PageRequest where
  encode request := .object [("page", encode request.page), ("size", encode request.size)]
  decode := pageRequestRecord.decode "PageRequest"

def pageRecord (α : Type) [Wire α] : Record (Page α) :=
  Page.mk <$> Record.required "content" <*> Record.required "page" <*> Record.required "size" <*>
    Record.required "total_elements" <*> Record.required "total_pages"

instance {α : Type} [Wire α] : Wire (Page α) where
  encode page := .object
    [("content", encode page.content), ("page", encode page.page), ("size", encode page.size),
      ("total_elements", encode page.totalElements), ("total_pages", encode page.totalPages)]
  decode := (pageRecord α).decode "Page"

def filterModes : List String := ["ids", "case_ids"]

def filterOfMode? (mode : String) : Option (Json → Except DecodeError OrderFilter) :=
  if mode = "ids" then some fun values => (decode values).map OrderFilter.ids
  else if mode = "case_ids" then some fun values => (decode values).map OrderFilter.caseIds
  else none

def expectedFilter : String := "adjacently tagged enum OrderFilter"

/-- Reads the mode of a filter that is written as a sequence, where only a text names one. -/
def decodeLeadingMode : Json → Except DecodeError (Json → Except DecodeError OrderFilter)
  | .string mode =>
      match filterOfMode? mode with
      | some read => .ok read
      | none => .error (.variant mode filterModes)
  | found => wrongKind found "variant identifier"

/-- Reads a filter. Its mode is judged before its values, wherever it stands. -/
def decodeFilter : Json → Except DecodeError OrderFilter
  | .object members =>
      match Json.find? "mode" members with
      | none => .error (.missing "mode")
      | some mode => do
          let read ← decodeVariant filterModes filterOfMode? mode
          match Json.find? "values" members with
          | none => .error (.missing "values")
          | some values => read values
  | .array [] => .error (.length 0 expectedFilter)
  | .array (mode :: rest) => do
      let read ← decodeLeadingMode mode
      match rest with
      | [] => .error (.length 1 expectedFilter)
      | [values] => read values
      | values :: _ => do
          let _ ← read values
          .error (.length (rest.length + 1) "fewer elements in array")
  | found => wrongKind found expectedFilter

instance : Wire OrderFilter where
  encode
    | .ids keys => .object [("mode", .string "ids"), ("values", encode keys)]
    | .caseIds keys => .object [("mode", .string "case_ids"), ("values", encode keys)]
  decode := decodeFilter

def issueKinds : List String :=
  ["required", "case_id_length", "case_id_checksum", "malformed_id", "invalid_pagination"]

def fieldRecord (issue : String → Issue) : Record Issue :=
  issue <$> Record.required "field"

def valueRecord (issue : String → String → Issue) : Record Issue :=
  issue <$> Record.required "field" <*> Record.required "value"

/-- The members of an issue of a kind, and the name of the kind in messages. -/
def issueRecord? (kind : String) : Option (String × Record Issue) :=
  if kind = "required" then some ("Required", fieldRecord .required)
  else if kind = "case_id_length" then some ("CaseIdLength", valueRecord .caseIdLength)
  else if kind = "case_id_checksum" then some ("CaseIdChecksum", valueRecord .caseIdChecksum)
  else if kind = "malformed_id" then some ("MalformedId", valueRecord .malformedId)
  else if kind = "invalid_pagination" then
    some ("InvalidPagination", Issue.invalidPagination <$> Record.required "detail")
  else none

/-- Reads the kind of an issue. -/
def decodeIssueKind : Json → Except DecodeError (String × Record Issue)
  | .string kind =>
      match issueRecord? kind with
      | some known => .ok known
      | none => .error (.variant kind issueKinds)
  | found => wrongKind found "variant identifier"

/-- Reads an issue. Its kind is judged before its other members, wherever it stands. -/
def decodeIssue : Json → Except DecodeError Issue
  | .object members =>
      match Json.find? "kind" members with
      | none => .error (.missing "kind")
      | some kind => do
          let (_, record) ← decodeIssueKind kind
          record.ofObject members
  | .array [] => .error (.missing "kind")
  | .array (kind :: items) => do
      let (name, record) ← decodeIssueKind kind
      let size := Record.elements record.rules.length
      let (issue, rest) ←
        record.ofItems s!"struct variant ValidationIssue::{name} with {size}" 0 items
      if rest.isEmpty then return issue
      else .error (.length items.length s!"{size} in sequence")
  | found => wrongKind found "internally tagged enum ValidationIssue"

def issueMembers : Issue → String × List (String × Json)
  | .required field => ("required", [("field", encode field)])
  | .caseIdLength field value =>
      ("case_id_length", [("field", encode field), ("value", encode value)])
  | .caseIdChecksum field value =>
      ("case_id_checksum", [("field", encode field), ("value", encode value)])
  | .malformedId field value =>
      ("malformed_id", [("field", encode field), ("value", encode value)])
  | .invalidPagination detail => ("invalid_pagination", [("detail", encode detail)])

instance : Wire Issue where
  encode issue :=
    let (kind, members) := issueMembers issue
    .object (("kind", .string kind) :: members)
  decode := decodeIssue

def errorReportRecord : Record ErrorReport :=
  ErrorReport.mk <$> Record.required "kind" <*> Record.required "message" <*>
    Record.defaulted "issues" []

instance : Wire ErrorReport where
  encode report := .object <|
    [("kind", encode report.kind), ("message", encode report.message)] ++
      (if report.issues.isEmpty then [] else [("issues", encode report.issues)])
  decode := errorReportRecord.decode "ErrorReport"

end PaymentOrders.Wire
