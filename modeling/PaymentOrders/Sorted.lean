/-!
# Lists of keys

Insertion into a list that is strictly ascending and stays so, with one element for each key.
-/

namespace PaymentOrders.Sorted

variable {α : Type}

/-- Puts an element at the place of its key, unless the key is there already. -/
def insertKey (key : α → Nat) (x : α) : List α → List α
  | [] => [x]
  | y :: ys =>
      if key x < key y then x :: y :: ys
      else if key x = key y then y :: ys
      else y :: insertKey key x ys

def ofKeys (key : α → Nat) (xs : List α) : List α :=
  xs.foldr (insertKey key) []

end PaymentOrders.Sorted
