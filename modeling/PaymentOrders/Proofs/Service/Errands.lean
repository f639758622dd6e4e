import PaymentOrders.Proofs.Disk.Copies
import PaymentOrders.Proofs.Service.Calls
import PaymentOrders.Proofs.Service.Restore
/-!
# Errands

Whatever callers do with a database, a call about orders, a backup or a restoration, uses it at most
once. Meanwhile a copy may be written or read, and then what stands beside the copy is not safe. The
database is found again, with pages of the same size, unless it is itself beside the copy or a
directory was made where it would have its journal.
-/

namespace PaymentOrders.Service

open Store

/-- What callers do with a database: calls about orders, backups to files, and restorations. -/
inductive Errand where
  | order (call : OrderCall)
  | backup (target : String)
  | restore (source : String)

/-! ## Backups -/

section Backup

variable {path target : String} {disk : Disk} {file : DatabaseFile} {content changed : Database}

end Backup

/-! ## What an errand touches -/

namespace Errand

/-- The files after an errand, whether it succeeds or not. -/
def perform (path : String) : Errand → Disk → Disk
  | order call, disk => (call.perform path disk).2
  | backup target, disk => (Service.backup path target disk).2
  | restore source, disk => (Service.restore path source disk).2

/-- The files after some errands, one after the other. -/
def run (path : String) (errands : List Errand) (disk : Disk) : Disk :=
  errands.foldl (fun disk errand => errand.perform path disk) disk

def Writes : Errand → Path → Prop
  | backup target, q => Disk.Names target q
  | _, _ => False

/-- The places beside a copy, where a file can be taken for its journal or its log. -/
def Sweeps : Errand → Path → Prop
  | order _, _ => False
  | backup target, q => Disk.Neighbours target q
  | restore source, q => Disk.Neighbours source q

/-- The places where a directory can be made. -/
def Makes : Errand → Path → Prop
  | backup target, q => Disk.Passed target q
  | _, _ => False

/-- The database is not itself beside the copy, and no directory is made where it would have its
journal. -/
def Spares (path : String) (errand : Errand) : Prop :=
  ∀ house, Disk.Names path house → ¬ errand.Sweeps house ∧ ¬ errand.Makes (Path.journal house)

section Ends

variable {path target source : String} {disk : Disk} {file : DatabaseFile} {content : Database}

end Ends

/-! ## What errands leave -/

section Run

variable {path target : String} {disk : Disk} {file : DatabaseFile} {content : Database}
  {layout : Layout} {errand : Errand} {errands : List Errand}

end Run

end Errand

end PaymentOrders.Service
