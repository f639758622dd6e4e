import PaymentOrders.Disk.Layout
/-!
# Databases written as text

The format of database files, as far as a file of plain characters can follow it: the first page
lists the tables, and rows are so short that their lengths are numbers of one byte. The statements
that make the tables of orders and revisions are longer than that, and so is every statement that
is not written in UTF-8; so only the table of the schema versions is read, and a file that lists
another one counts as no database.
-/

namespace PaymentOrders.Format

inductive Value where
  | null
  | integer (n : Nat)
  | text (s : String)
  deriving DecidableEq, Repr

def magic : List Nat :=
  "SQLite format 3".toList.map Char.toNat ++ [0]

def numberAt (position width : Nat) (bytes : List Nat) : Nat :=
  ((bytes.drop position).take width).foldl (fun n byte => 256 * n + byte) 0

def pageSizes : List Nat :=
  [512, 1024, 2048, 4096, 8192, 16384, 32768, 65536]

/-- The size of the pages. A one stands for the size that is too large for its two bytes. -/
def pageSize? (bytes : List Nat) : Option Nat :=
  let written := numberAt 16 2 bytes
  let size := if written = 1 then 65536 else written
  if pageSizes.contains size then some size else none

/-- Whether changes go to a log, which is written down once for reading and once for writing. -/
def logged? (bytes : List Nat) : Option Bool :=
  match (bytes.drop 18).take 2 with
  | [1, 1] => some false
  | [2, 2] => some true
  | _ => none

/-- The encoding of text, if it is known what the file says of it. A format that is not set yet
leaves the encoding open. -/
def encoding? (bytes : List Nat) : Option (Option Encoding) :=
  match numberAt 44 4 bytes, numberAt 56 4 bytes with
  | 0, 0 => some none
  | 4, 1 => some (some .utf8)
  | 4, 2 => some (some .utf16le)
  | 4, 3 => some (some .utf16be)
  | _, _ => none

def layout? (bytes : List Nat) : Option Layout := do
  let pageSize ← pageSize? bytes
  let logged ← logged? bytes
  let encoding ← encoding? bytes
  return { pageSize, encoding, logged }

/-- Whether a file with some size of pages goes on as a database of plain characters does. -/
def hasHeader (pageSize : Nat) (bytes : List Nat) : Bool :=
  bytes.take 16 == magic && (bytes.drop 20).take 4 == [0, 64, 32, 32] &&
    numberAt 24 4 bytes == numberAt 92 4 bytes &&
    bytes.length == pageSize * numberAt 28 4 bytes && numberAt 52 4 bytes == 0

def page (pageSize number : Nat) (bytes : List Nat) : List Nat :=
  (bytes.drop (pageSize * (number - 1))).take pageSize

def integerWidths : List Nat := [0, 1, 2, 3, 4, 6, 8]

/-- The value of some type at the start of some bytes, and the bytes behind it. Plain characters
make no negative numbers. -/
def value? (type : Nat) (bytes : List Nat) : Option (Value × List Nat) :=
  if type = 0 then some (.null, bytes)
  else if type = 8 then some (.integer 0, bytes)
  else if type = 9 then some (.integer 1, bytes)
  else
    match integerWidths[type]? with
    | some width =>
        if width ≤ bytes.length then some (.integer (numberAt 0 width bytes), bytes.drop width)
        else none
    | none =>
        let width := (type - 13) / 2
        if type % 2 = 1 ∧ 13 ≤ type ∧ width ≤ bytes.length then
          some (.text (String.ofList ((bytes.take width).map Char.ofNat)), bytes.drop width)
        else none

def values? : List Nat → List Nat → Option (List Value)
  | [], _ => some []
  | type :: types, bytes => do
      let (value, rest) ← value? type bytes
      return value :: (← values? types rest)

/-- The row in a cell: its size, its number, the size of the types and these, then the values. -/
def row? (cell : List Nat) : Option (List Value) :=
  match cell with
  | size :: _ :: header :: rest =>
      values? (rest.take (header - 1)) ((rest.drop (header - 1)).take (size - header))
  | _ => none

/-- The rows of a page, if it is one of rows. The positions of the cells stand behind the start of
the page's own header. -/
def rows? (start : Nat) (page : List Nat) : Option (List (List Value)) :=
  if page[start]? = some 13 then
    (List.range (numberAt (start + 3) 2 page)).mapM fun i =>
      row? (page.drop (numberAt (start + 8 + 2 * i) 2 page))
  else none

def versionsStatement : String := "CREATE TABLE schema_migrations(version,applied_at)"

def version? : List Value → Option Int
  | [.integer version, .text _] => some version
  | _ => none

/-- The database with some recorded versions and no other tables. -/
def withVersions (versions : List Int) : Store.Database where
  versions := some (versions.mergeSort fun a b => a ≤ b)
  orders := none
  trail := none
  ordersNewer := false

def content? (layout : Layout) (bytes : List Nat) : Option Store.Database :=
  match rows? 100 (page layout.pageSize 1 bytes) with
  | some [] => some .empty
  | some [[.text "table", .text "schema_migrations", .text "schema_migrations", .integer root,
      .text statement]] => do
      let rows ← rows? 0 (page layout.pageSize root bytes)
      let versions ← rows.mapM version?
      if layout.encoding = some .utf8 ∧ statement = versionsStatement then
        some (withVersions versions)
      else none
  | _ => none

/-- The database that a file of plain characters is, if it is one, and its layout. -/
def read? (text : String) : Option (Store.Database × Layout) := do
  let bytes := text.toList.map Char.toNat
  let layout ← layout? bytes
  if hasHeader layout.pageSize bytes && bytes.all fun byte => byte < 128 then
    return (← content? layout bytes, layout)
  else none

end PaymentOrders.Format
