import PaymentOrders.Disk.Directory
import PaymentOrders.Disk.Format
import PaymentOrders.Disk.Location
/-!
# Database files

Opening the database at a path. A file with less than two bytes is a database without tables, and
another text is the database that it spells out, if it spells out one. On the way to the file two
points take back the name before them, as long as no file is used as a directory; the file is made
if only it is missing.

A directory in place of the journal, the log or the index of the log stands in the way of a
database. One without an index, or that is opened without the right to write, could still be read
if it is up to date; here it is refused as soon as it is opened, and not by the first statement
that writes. A database that is refused leaves the files as they are.
-/

namespace PaymentOrders

structure DatabaseFile where
  /-- Where it is; a database in memory is nowhere. -/
  place : Option Path
  /-- The database that it holds, if it holds one. -/
  content : Option Store.Database
  layout : Layout
  /-- Whether nothing was ever written to it. -/
  isNew : Bool
  readOnly : Bool
  deriving DecidableEq

namespace DatabaseFile

def maxPathSize : Nat := 504

/-- The bytes that the name of a database may have so that its journal can stand beside it. -/
def maxJournaledSize : Nat := 247

/-- The bytes that it may have so that its log can stand beside it. -/
def maxLoggedSize : Nat := 251

def inMemory : DatabaseFile where
  place := none
  content := some .empty
  layout := .blank
  isNew := true
  readOnly := false

/-- The layout of the database when it holds some content. What is on the disk has a log. -/
def layoutFor (file : DatabaseFile) (content : Store.Database) : Layout :=
  { file.layout.holding content with logged := file.place.isSome }

/-- Whether a copy with some layout can replace the database. The size of the pages on the disk
stays. -/
def takes (file : DatabaseFile) (layout : Layout) : Bool :=
  file.place.isNone || layout.pageSize == file.layout.pageSize

/-- The file once its content is replaced by a copy with some layout. -/
def replacedBy (file : DatabaseFile) (layout : Layout) : DatabaseFile :=
  { file with layout := { layout with encoding := layout.encoding <|> file.layout.encoding } }

/-- Whether a text is so short that it is a database to which nothing was ever written. -/
def isBlank (text : String) : Bool :=
  text.utf8ByteSize < 2

def ofText? (text : String) : Option (Store.Database × Layout) :=
  if isBlank text then some (.empty, .blank) else Format.read? text

end DatabaseFile

namespace Disk

/-- Whether there could be something at a place. -/
def isOpenWay (disk : Disk) (place : Path) : Bool :=
  match disk.follow [] place with
  | .ok _ | .error .missing => true
  | .error _ => false

def goOn? (disk : Disk) (place : Path) (name : String) : Option Path :=
  let next := Path.step place name
  if disk.isOpenWay next then some next else none

def locate? (disk : Disk) (path : String) : Option Path :=
  ((Path.names path).foldlM disk.goOn? (Path.start path)).filter fun place =>
    (Path.toText place).utf8ByteSize ≤ DatabaseFile.maxPathSize

def fileAt? (disk : Disk) (place : Path) (access : Access) : Option DatabaseFile :=
  let file (held : Option (Store.Database × Layout)) (isNew : Bool) : DatabaseFile :=
    { place := some place, content := held.map Prod.fst, layout := (held.map Prod.snd).getD .blank
      isNew, readOnly := access == .readOnly }
  match disk.get? place with
  | some .directory => none
  | some (.database content layout) => some (file (some (content, layout)) false)
  | some (.text text) => some (file (DatabaseFile.ofText? text) (DatabaseFile.isBlank text))
  | none =>
      if access = .create && disk.isDirectory place.dropLast then
        some (file (some (.empty, .blank)) true)
      else none

def openFile (disk : Disk) (text : String) : Except Fault DatabaseFile := do
  if text.toList.contains (Char.ofNat 0) then
    .error (.nulInPath (Path.size [String.ofList (text.toList.takeWhile (· != Char.ofNat 0))]))
  else
    let location ← Location.ofText text
    if location.isInMemory then return .inMemory
    match (disk.locate? location.path).bind (disk.fileAt? · location.access) with
    | some file => return file
    | none => .error (.cannotOpen text)

def isFilled (disk : Disk) (place : Path) : Bool :=
  match disk.get? place with
  | some (.database _ _) => true
  | some (.text text) => text != ""
  | some .directory | none => false

/-- Whether a file is used with a log: if it says so, or if a log was left beside it. -/
def usesLog (disk : Disk) (file : DatabaseFile) (place : Path) : Bool :=
  !file.isNew && (file.layout.logged || disk.isFilled (Path.log place))

/-- Whether there is a name for what stands beside a file when it is written: the log if it is used
with one, else the journal. -/
def hasRoom (disk : Disk) (file : DatabaseFile) (place : Path) : Bool :=
  Path.nameSize place ≤
    if disk.usesLog file place then DatabaseFile.maxLoggedSize else DatabaseFile.maxJournaledSize

/-- Why a file is refused before it is read. The log of a file without pages is taken away, so a
directory in its place is noticed; the journal of such a file is only noticed when it is
written. -/
def barrier? (disk : Disk) (file : DatabaseFile) : Option Refusal :=
  match file.place with
  | none => none
  | some place =>
      if file.isNew then
        if disk.isDirectory (Path.log place) then some .cannotDelete else none
      else if disk.isDirectory (Path.journal place) then some .cannotRead
      else if disk.isDirectory (Path.log place) ||
          disk.usesLog file place && !disk.hasRoom file place then
        some .cannotOpen
      else none

def hasIndex (disk : Disk) (file : DatabaseFile) : Bool :=
  match file.place with
  | none => true
  | some place => !disk.isDirectory (Path.index place)

def canWrite (disk : Disk) (file : DatabaseFile) : Bool :=
  match file.place with
  | none => true
  | some place => disk.hasRoom file place && !disk.isDirectory (Path.journal place)

def contentOf (disk : Disk) (file : DatabaseFile) : Except Refusal Store.Database :=
  match disk.barrier? file with
  | some refusal => .error refusal
  | none =>
      match file.content with
      | none => .error .notADatabase
      | some content =>
          if file.readOnly || !disk.hasIndex file then .error .readOnly
          else if disk.canWrite file then .ok content
          else .error .cannotOpen

def openDatabase (disk : Disk) (path : String) :
    Except Failure (DatabaseFile × Store.Database) := do
  let file ← (disk.openFile path).mapError fun fault => ⟨[.openingDatabase path], .fault fault⟩
  let content ← (disk.contentOf file).mapError fun refusal =>
    ⟨[.configuringDatabase], .fault (.refused refusal)⟩
  return (file, content)

/-- Makes the file that was opened, if it was missing. -/
def touch (disk : Disk) (file : DatabaseFile) : Disk :=
  match file.place with
  | some place => if (disk.get? place).isNone then disk.put place (.text "") else disk
  | none => disk

def save (disk : Disk) (file : DatabaseFile) (content : Store.Database) : Disk :=
  match file.place with
  | some place => disk.put place (.database content (file.layoutFor content))
  | none => disk

end Disk

end PaymentOrders
