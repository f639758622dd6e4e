import PaymentOrders.Json.Binary64.Shortest
/-!
# JSON values

A document of the interchange format. An object keeps its members in the order in which they
were written; a name occurs once, and `insert` gives it the last value that was written for it.
-/

namespace PaymentOrders

inductive Json where
  | null
  | bool (b : Bool)
  | integer (n : Int)
  | real (x : Json.Binary64)
  | string (s : String)
  | array (items : List Json)
  | object (members : List (String × Json))
  deriving Repr, Inhabited, BEq

namespace Json

def find? (name : String) : List (String × Json) → Option Json
  | [] => none
  | (key, value) :: members => if key = name then some value else find? name members

/-- The members with another value for a name, which comes last if it is new. -/
def insert (name : String) (value : Json) : List (String × Json) → List (String × Json)
  | [] => [(name, value)]
  | (key, old) :: members =>
      if key = name then (key, value) :: members else (key, old) :: insert name value members

theorem find?_insert_self (name : String) (value : Json) (members : List (String × Json)) :
    find? name (insert name value members) = some value := by
  induction members with
  | nil => simp [insert, find?]
  | cons member members ih =>
      obtain ⟨key, old⟩ := member
      by_cases h : key = name <;> simp [insert, find?, h, ih]

theorem find?_insert_of_ne {name other : String} (h : name ≠ other) (value : Json)
    (members : List (String × Json)) :
    find? other (insert name value members) = find? other members := by
  induction members with
  | nil => simp [insert, find?, h]
  | cons member members ih =>
      obtain ⟨key, old⟩ := member
      by_cases hk : key = name
      · simp [insert, find?, hk, h]
      · simp only [insert, if_neg hk, find?, ih]

end Json

end PaymentOrders
