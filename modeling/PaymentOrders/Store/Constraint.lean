import PaymentOrders.Store.Database
/-!
# Constraints

What the tables demand of their rows: a case id of at most sixteen digits, one live order for
an id and for a pair of case id and order reference, a change of a known name, one revision for
a number. Every insertion and every change of a row goes through these rules; only the rules on
single values can be switched off.
-/

namespace PaymentOrders.Store

def maxInteger : Nat := 9223372036854775807

def OrderRow.satisfiesCheck (row : OrderRow) : Bool :=
  0 ≤ row.caseId && row.caseId ≤ 9999999999999999

def RevisionRow.satisfiesCheck (row : RevisionRow) : Bool :=
  (ChangeType.ofName? row.changeType).isSome

/-- The failure of a statement whose row a table rejects. -/
def rejected (table : TableName) (violation : Violation) : Failure :=
  .ofFault (.rejectedRow table violation)

/-- What stands against putting a row beside others. -/
def OrderRow.violation? (checked : Bool) (others : List OrderRow) (row : OrderRow) :
    Option Violation :=
  if checked && !row.satisfiesCheck then some .check
  else if others.any row.samePair then some .duplicatePair
  else if row.id.isSome && others.any (fun other => other.id == row.id) then some .duplicateKey
  else none

def insertOrderRow (checked : Bool) (row : OrderRow) (rows : List OrderRow) :
    Except Failure (List OrderRow) :=
  match row.violation? checked rows with
  | none => .ok (rows ++ [row])
  | some violation => .error (rejected .orders violation)

def replaceOrderRow (row : OrderRow) (rows : List OrderRow) : Except Failure (List OrderRow) :=
  match row.violation? true (rows.filter fun other => other.id != row.id) with
  | none => .ok (rows.map fun other => if other.id == row.id then row else other)
  | some violation => .error (rejected .orders violation)

namespace Trail

/-- The largest number that is known to have been used, zero before the first: that of the counter
or, if somebody else set that back, that of a row. -/
def last (trail : Trail) : Nat :=
  trail.rows.foldr (fun row last => max row.number.toNat last) (trail.counter.getD 0)

def next (trail : Trail) : Nat :=
  trail.last + 1

/-- The counter once a number is used. -/
def counterWith (trail : Trail) (number : Int) : Nat :=
  max (trail.counter.getD 0) number.toNat

/-- The trail with one more row, which has a number of its own. -/
def insert (checked : Bool) (row : RevisionRow) (trail : Trail) : Except Failure Trail :=
  if checked && !row.satisfiesCheck then
    .error (rejected .trail .check)
  else if trail.rows.any (fun other => other.number == row.number) then
    .error (rejected .trail .duplicateKey)
  else
    .ok ⟨trail.rows ++ [row], some (trail.counterWith row.number)⟩

/-- The number of the next revision, as long as there is one. -/
def nextNumber (trail : Trail) : Except Failure Int :=
  if trail.next ≤ maxInteger then .ok trail.next else .error (.ofFault .counterExhausted)

end Trail

end PaymentOrders.Store
