import PaymentOrders.Disk.Copy
/-!
# Calls

What is done with the files, step after step. A step that fails ends the call; what the steps
before it did stays.
-/

namespace PaymentOrders

/-- Calls on the files, which keep what was done before one of them fails. -/
abbrev Call (α : Type) := ExceptT Failure (StateM Disk) α

namespace Call

variable {α : Type}

/-- Goes on only if a value of the domain is there. -/
def demand (value : Except OrderError α) : Call α :=
  fun disk => (value.mapError Failure.ofError, disk)

def fail (failure : Failure) : Call α :=
  fun disk => (.error failure, disk)

def write (change : Disk → Except Failure α × Disk) : Call α :=
  change

def onDatabase (path : String) (session : Store.Session α) : Call α :=
  fun disk =>
    match disk.openDatabase path with
    | .error failure => (.error failure, disk)
    | .ok (file, content) => ((session content).1, disk.afterUse file (session content).2)

/-- Runs a session on the database at a path and, if it succeeds, a call while the database is
still in use. The call is given the layout that the database has by then. -/
def whileOpen {β : Type} (path : String) (session : Store.Session α)
    (call : Layout → α → Call β) : Call β :=
  fun disk =>
    match disk.openDatabase path with
    | .error failure => (.error failure, disk)
    | .ok (file, content) =>
        match session content with
        | (.error failure, changed) => (.error failure, disk.afterUse file changed)
        | (.ok answer, changed) =>
            let (result, after) :=
              call (file.layoutFor changed) answer (disk.duringUse file changed)
            (result, after.closed file changed)

/-- Replaces the database at a path by the copy at another one and runs a session on it. The size
of the pages stays, so a copy of another size is refused. Once the content is replaced nothing can
be done with it if it is in another encoding than the database was: the session is told so. -/
def onCopy (path source : String) (session : Bool → Store.Session α) : Call α :=
  fun disk =>
    match disk.openDatabase path with
    | .error failure => (.error failure, disk)
    | .ok (file, content) =>
        match (disk.duringUse file content).readCopy source with
        | (.error failure, after) => (.error failure, after.closed file content)
        | (.ok (copy, layout), after) =>
            if file.takes layout then
              let (result, left) := session (layout.clashes file.layout) copy
              (result, after.closed (file.replacedBy layout) left)
            else
              (.error ⟨[.restoring source], .fault (.copyRefused .readOnly)⟩,
                after.closed file content)

end Call

end PaymentOrders
