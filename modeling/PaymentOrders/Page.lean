import PaymentOrders.OrderError
/-!
# Pages

The selection of one page of a long answer, and the answer itself. Numbers are words of the
width that they have on the wire; a row offset has to fit a signed integer of 64 bits.
-/

namespace PaymentOrders

/-- The selection of a page, counted from zero. -/
structure PageRequest where
  page : UInt32
  size : UInt32
  deriving DecidableEq, Repr

namespace PageRequest

def defaultSize : UInt32 := 20

def first : PageRequest := ⟨0, defaultSize⟩

def maxOffset : Nat := 9223372036854775807

def offset (request : PageRequest) : UInt64 :=
  request.page.toUInt64 * request.size.toUInt64

def emptySize : OrderError :=
  .validation [.invalidPagination "page size must be greater than zero"]

/-- A page must begin at a row that can be counted. -/
def offsetTooLarge : OrderError :=
  .validation [.invalidPagination "page offset exceeds the supported range"]

/-- The number of rows before the page, if it can be counted. -/
def checkedOffset (request : PageRequest) : Except OrderError Nat :=
  if request.offset.toNat ≤ maxOffset then .ok request.offset.toNat else .error offsetTooLarge

def make (page size : UInt32) : Except OrderError PageRequest :=
  if size = 0 then .error emptySize
  else (checkedOffset ⟨page, size⟩).map fun _ => ⟨page, size⟩

end PageRequest

structure Page (α : Type) where
  content : List α
  page : UInt32
  size : UInt32
  totalElements : UInt64
  totalPages : UInt64
  deriving DecidableEq

namespace Page

def count (total size : UInt64) : UInt64 :=
  if total % size > 0 then total / size + 1 else total / size

/-- The page with some content out of a total. A size of zero counts as one. -/
def ofTotal {α : Type} (content : List α) (request : PageRequest) (total : UInt64) : Page α where
  content
  page := request.page
  size := request.size
  totalElements := total
  totalPages := count total (if request.size = 0 then 1 else request.size).toUInt64

end Page

end PaymentOrders
