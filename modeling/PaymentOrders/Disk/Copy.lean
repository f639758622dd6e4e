import PaymentOrders.Disk.Use
/-!
# Copies

Copying a database to a file and back while the database is in use. The file of the copy is opened
as a database too. So a journal beside it that is taken for its own is gone, and if a log is beside
it or it is used with one, the log and the index are gone: even if they are other copies that were
kept there.

Of a copy that is opened without the right to write only the content counts. If the database in use
is itself what stands beside the copy as its journal, log or index, its file is gone and what the
call does then is not followed further.
-/

namespace PaymentOrders.Disk

def makeParents (disk : Disk) (path : String) : Except Failure Unit × Disk :=
  let (result, changed) :=
    makeDirectories (Path.start path) ((Path.steps path).reverse.drop 1) disk
  (result.mapError fun obstacle =>
    ⟨[.creatingBackupParent path], .fault (.cannotMakeDirectory obstacle)⟩, changed)

/-- The files without what a file that was looked into had beside it for a log. Without an index
the log stays. -/
def withoutLog (disk : Disk) (file : DatabaseFile) (place : Path) : Disk :=
  let log := Path.log place
  if disk.usesLog file place then
    if disk.hasIndex file then (disk.erase log).erase (Path.index place)
    else disk.put log ((disk.get? log).getD (.text ""))
  else if disk.isFilled log then disk.erase log
  else disk

/-- Looks into the file of a copy: what it holds or why it is refused, and the files after that. -/
def lookInto (disk : Disk) (file : DatabaseFile) : Except Refusal Store.Database × Disk :=
  let held : Except Refusal Store.Database :=
    match file.content with
    | some content => .ok content
    | none => .error .notADatabase
  match file.place with
  | none => (held, disk)
  | some place =>
      if file.readOnly then (held, disk)
      else
        let opened := (disk.touch file).withoutJournal place file.isNew false
        match disk.barrier? file with
        | some refusal => (.error refusal, opened)
        | none => (held, opened.withoutLog file place)

/-- Why a file that was looked into cannot take a database with some layout. One with a log keeps
the size of its pages. -/
def mismatch? (disk : Disk) (file : DatabaseFile) (layout : Layout) : Option Refusal :=
  match file.place with
  | none => none
  | some place =>
      if disk.usesLog file place then
        if file.layout.pageSize = layout.pageSize ∧ disk.hasIndex file then none
        else some .readOnly
      else if disk.canWrite file then none
      else some .cannotOpen

/-- Puts a copy into a file. The journal that this takes is gone afterwards. -/
def putCopy (disk : Disk) (file : DatabaseFile) (usesLog : Bool) (content : Store.Database)
    (layout : Layout) : Disk :=
  match file.place with
  | none => disk
  | some place =>
      (disk.withoutJournal place file.isNew !usesLog).put place
        (.database content { layout with logged := layout.logged || usesLog })

/-- Writes a copy of a database to a path, in place of the database that is there. -/
def writeCopy (disk : Disk) (path : String) (content : Store.Database) (layout : Layout) :
    Except Failure Unit × Disk :=
  let failed (fault : Fault) : Except Failure Unit := .error ⟨[.backingUp path], .fault fault⟩
  match disk.openFile path with
  | .error fault => (failed fault, disk)
  | .ok file =>
      if file.readOnly then (failed (.copyRefused .readOnly), disk)
      else
        match disk.lookInto file with
        | (.error refusal, looked) => (failed (.copyRefused refusal), looked)
        | (.ok _, looked) =>
            match disk.mismatch? file layout with
            | some refusal => (failed (.copyRefused refusal), looked)
            | none =>
                let usesLog := file.place.any fun place => disk.usesLog file place
                (.ok (), looked.putCopy file usesLog content layout)

/-- Reads the copy of a database at a path, with its layout. -/
def readCopy (disk : Disk) (path : String) : Except Failure (Store.Database × Layout) × Disk :=
  let failed (fault : Fault) : Failure := ⟨[.restoring path], .fault fault⟩
  if disk.isPresent path then
    match disk.openFile path with
    | .error fault => (.error (failed fault), disk)
    | .ok file =>
        match disk.lookInto file with
        | (.error refusal, looked) => (.error (failed (.copyRefused refusal)), looked)
        | (.ok content, looked) => (.ok (content, file.layout), looked)
  else (.error (.ofFault (.missingBackup path)), disk)

end PaymentOrders.Disk
