import PaymentOrders.Wire.Decode
/-!
# Records

How the members of an object make a value. Members are judged in the order in which they stand
in the document, and the first one that is wrong tells the error; only then it shows which
members are missing, in the order of the record. Members that the record does not know are
passed over. An array with one item for each member is read as well.
-/

namespace PaymentOrders.Wire

/-- The members of an object that make a value, and how they make it. -/
structure Record (α : Type) where
  /-- The members, in order, and how each is judged. -/
  rules : List (String × (Json → Except DecodeError Unit))
  ofMembers : List (String × Json) → Except DecodeError α
  /-- The value of the items of an array from a position on, and the items that are left. What
  the whole array should be is told by the text. -/
  ofItems : String → Nat → List Json → Except DecodeError (α × List Json)

namespace Record

variable {α β : Type}

/-- A member, with the value that an object without it has, and the value that an array without
an item for it has. -/
def member [Wire α] (name : String) (absent : Except DecodeError α) (short : Option α) :
    Record α where
  rules := [(name, fun value => (Wire.decode value : Except DecodeError α).map fun _ => ())]
  ofMembers members :=
    match Json.find? name members with
    | some value => Wire.decode value
    | none => absent
  ofItems expected position
    | [] =>
        match short with
        | some x => .ok (x, [])
        | none => .error (.length position expected)
    | item :: items => (Wire.decode item).map fun x => (x, items)

def required [Wire α] (name : String) : Record α :=
  member name (.error (.missing name)) none

def optional [Wire α] (name : String) : Record (Option α) :=
  member name (.ok none) none

/-- A member that has a value of its own when it is missing. -/
def defaulted [Wire α] (name : String) (value : α) : Record α :=
  member name (.ok value) (some value)

protected def pure (x : α) : Record α where
  rules := []
  ofMembers _ := .ok x
  ofItems _ _ items := .ok (x, items)

/-- A record with the members of two. -/
protected def seq (f : Record (α → β)) (x : Record α) : Record β where
  rules := f.rules ++ x.rules
  ofMembers members := do
    let g ← f.ofMembers members
    let a ← x.ofMembers members
    return g a
  ofItems expected position items := do
    let (g, items) ← f.ofItems expected position items
    let (a, items) ← x.ofItems expected (position + f.rules.length) items
    return (g a, items)

instance : Applicative Record where
  pure := Record.pure
  seq f x := f.seq (x ())

def judgeMember (rules : List (String × (Json → Except DecodeError Unit)))
    (member : String × Json) : Except DecodeError Unit :=
  match rules.find? fun rule => rule.1 == member.1 with
  | some rule => rule.2 member.2
  | none => .ok ()

def judge (record : Record α) (members : List (String × Json)) : Except DecodeError Unit :=
  members.forM (judgeMember record.rules)

def ofObject (record : Record α) (members : List (String × Json)) : Except DecodeError α := do
  record.judge members
  record.ofMembers members

/-- How many elements something has, in words. -/
def elements (n : Nat) : String :=
  if n = 1 then "1 element" else s!"{n} elements"

def ofArray (record : Record α) (expected : String) (items : List Json) :
    Except DecodeError α := do
  let size := elements record.rules.length
  let (x, rest) ← record.ofItems s!"{expected} with {size}" 0 items
  if rest.isEmpty then return x
  else .error (.length items.length "fewer elements in array")

def decode (name : String) (record : Record α) : Json → Except DecodeError α
  | .object members => record.ofObject members
  | .array items => record.ofArray s!"struct {name}" items
  | found => wrongKind found s!"struct {name}"

end Record

end PaymentOrders.Wire
