import PaymentOrders.Disk.DatabaseFile
/-!
# Databases in use

A database in use keeps a log and an index of the log beside its own file; they are gone
afterwards, whatever was put in their place meanwhile. A journal that was left beside the file is
gone as soon as the database is in use. None of these holds changes of a program that was stopped
before it was done with them: a log or a journal that was found is only taken away.
-/

namespace PaymentOrders.Disk

/-- What the log or the index holds, which is no database. -/
def working : Entry := .text "log"

/-- Whether a journal is taken for one that was left behind: beside a file without pages if it has
some content, else if it does not start with a zero. -/
def isLeftBehind (isNew : Bool) : Entry → Bool
  | .directory => false
  | .database _ _ => true
  | .text text =>
      match text.toList with
      | [] => false
      | first :: _ => isNew || first != Char.ofNat 0

/-- The files without the journal of a file that was opened, if that is taken for one that was left
behind or if it was written anew. -/
def withoutJournal (disk : Disk) (place : Path) (isNew rewritten : Bool) : Disk :=
  match disk.get? (Path.journal place) with
  | some .directory | none => disk
  | some entry =>
      if rewritten || isLeftBehind isNew entry then disk.erase (Path.journal place) else disk

/-- The files with the log and the index of a database in use. The log has nothing new until the
database changes; a new database has none before that. -/
def withLog (disk : Disk) (place : Path) (isNew changed : Bool) : Disk :=
  let log := Path.log place
  if changed then (disk.put log working).put (Path.index place) working
  else if isNew then disk.erase log
  else (disk.put log ((disk.get? log).getD (.text ""))).put (Path.index place) working

/-- The files while a database is in use, which has some content by now. A database that had no log
wrote its journal when it got one. -/
def duringUse (disk : Disk) (file : DatabaseFile) (content : Store.Database) : Disk :=
  match file.place with
  | none => disk
  | some place =>
      let opened := disk.withoutJournal place file.isNew !file.layout.logged
      (opened.withLog place file.isNew (file.content != some content)).save file content

/-- The files once a database that was in use is closed. If its own file was taken away meanwhile,
nobody finds it again, nor what is beside it. -/
def closed (disk : Disk) (file : DatabaseFile) (content : Store.Database) : Disk :=
  match file.place with
  | none => disk
  | some place =>
      if (disk.get? place).isNone then disk
      else ((disk.erase (Path.log place)).erase (Path.index place)).save file content

/-- The files after a use of a database that does nothing with other files. -/
def afterUse (disk : Disk) (file : DatabaseFile) (content : Store.Database) : Disk :=
  (disk.duringUse file content).closed file content

end PaymentOrders.Disk
