import PaymentOrders.Disk
import PaymentOrders.Json.Parser
import PaymentOrders.Json.Printer
import PaymentOrders.Wire.Record
/-!
# Database files

The text of the file that a database is kept in: a document with its layout and its three tables,
with nothing in place of a table that is not there, and with the order in which they were made. A
text that is no such document is left as it is.
-/

namespace PaymentOrders.Wire

def orderRowRecord : Record Store.OrderRow :=
  Store.OrderRow.mk <$> Record.optional "id" <*> Record.required "case_id" <*>
    Record.required "order_reference" <*> Record.required "action" <*>
    Record.required "responsible_party" <*> Record.required "effective_from" <*>
    Record.required "created_timestamp" <*> Record.required "created_by"

instance : Wire Store.OrderRow where
  encode row := .object
    [("id", encode row.id), ("case_id", encode row.caseId),
      ("order_reference", encode row.orderReference), ("action", encode row.action),
      ("responsible_party", encode row.responsibleParty),
      ("effective_from", encode row.effectiveFrom),
      ("created_timestamp", encode row.createdTimestamp), ("created_by", encode row.createdBy)]
  decode := orderRowRecord.decode "OrderRow"

def revisionRowRecord : Record Store.RevisionRow :=
  Store.RevisionRow.mk <$> Record.required "revision_number" <*> Record.required "record_id" <*>
    Record.required "change_type" <*> Record.required "revision_timestamp" <*>
    Record.optional "case_id" <*> Record.optional "order_reference" <*>
    Record.optional "action" <*> Record.optional "responsible_party" <*>
    Record.optional "effective_from" <*> Record.optional "created_timestamp" <*>
    Record.optional "created_by"

instance : Wire Store.RevisionRow where
  encode row := .object
    [("revision_number", encode row.number), ("record_id", encode row.recordId),
      ("change_type", encode row.changeType), ("revision_timestamp", encode row.timestamp),
      ("case_id", encode row.caseId), ("order_reference", encode row.orderReference),
      ("action", encode row.action), ("responsible_party", encode row.responsibleParty),
      ("effective_from", encode row.effectiveFrom),
      ("created_timestamp", encode row.createdTimestamp), ("created_by", encode row.createdBy)]
  decode := revisionRowRecord.decode "RevisionRow"

def trailRecord : Record Store.Trail :=
  Store.Trail.mk <$> Record.required "rows" <*> Record.optional "counter"

instance : Wire Store.Trail where
  encode trail := .object [("rows", encode trail.rows), ("counter", encode trail.counter)]
  decode := trailRecord.decode "Trail"

def databaseRecord : Record Store.Database :=
  Store.Database.mk <$> Record.required "schema_migrations" <*>
    Record.required "case_payment_orders" <*> Record.required "case_payment_orders_audit" <*>
    Record.required "orders_newer"

instance : Wire Store.Database where
  encode db := .object
    [("schema_migrations", encode db.versions), ("case_payment_orders", encode db.orders),
      ("case_payment_orders_audit", encode db.trail), ("orders_newer", encode db.ordersNewer)]
  decode := databaseRecord.decode "Database"

def encodingName : Encoding → String
  | .utf8 => "UTF-8"
  | .utf16le => "UTF-16le"
  | .utf16be => "UTF-16be"

def encodingOf? (name : String) : Option Encoding :=
  [Encoding.utf8, .utf16le, .utf16be].find? fun encoding => encodingName encoding = name

instance : Wire Encoding where
  encode encoding := .string (encodingName encoding)
  decode :=
    decodeVariant ([Encoding.utf8, .utf16le, .utf16be].map encodingName) encodingOf?

def layoutRecord : Record Layout :=
  Layout.mk <$> Record.required "page_size" <*> Record.optional "encoding" <*>
    Record.required "logged"

instance : Wire Layout where
  encode layout := .object
    [("page_size", encode layout.pageSize), ("encoding", encode layout.encoding),
      ("logged", encode layout.logged)]
  decode := layoutRecord.decode "Layout"

structure Archive where
  content : Store.Database
  layout : Layout

def archiveRecord : Record Archive :=
  Archive.mk <$> Record.required "content" <*> Record.required "layout"

instance : Wire Archive where
  encode archive := .object
    [("content", encode archive.content), ("layout", encode archive.layout)]
  decode := archiveRecord.decode "Archive"

def fileText (archive : Archive) : String :=
  Json.compact (encode archive)

def entryOfText (text : String) : Entry :=
  match (Json.parse text).map fun document => (decode document : Except DecodeError _) with
  | some (.ok (archive : Archive)) => .database archive.content archive.layout
  | _ => .text text

end PaymentOrders.Wire
