import PaymentOrders.Text.Parts
/-!
# Paths

A place in a tree of directories, and the texts that lead to one. A text is cut at its slashes
and its names are followed from the root or from where relative paths start. `ofText` takes two
points to take back the name before them; whether that name can be followed is not asked here.
-/

namespace PaymentOrders

abbrev Path := List String

namespace Path

def root : String := "/"

/-- The place one name further: a name that is empty or a point stays where it is, two points go
back where there is a name to go back from. -/
def step (path : Path) (name : String) : Path :=
  if name = "" ∨ name = "." then path
  else if name = ".." then
    match path.getLast? with
    | none => [".."]
    | some last =>
        if last = root then path else if last = ".." then path ++ [".."] else path.dropLast
  else path ++ [name]

/-- Whether a place is the root, where relative paths start, or above that. -/
def isTop (path : Path) : Bool :=
  path == [root] || path.all fun name => name == ".."

def start (text : String) : Path :=
  if text.toList.head? = some '/' then [root] else []

def names (text : String) : List String :=
  (Text.parts '/' text.toList).map String.ofList

/-- The names in a text that lead somewhere. -/
def steps (text : String) : List String :=
  (names text).filter fun name => name ≠ "" ∧ name ≠ "."

def ofText (text : String) : Path :=
  (names text).foldl step (start text)

def toText : Path → String
  | [] => "."
  | first :: rest =>
      if first = root then root ++ "/".intercalate rest else "/".intercalate (first :: rest)

/-- The bytes that names take with the slashes between them. -/
def size : List String → Nat
  | [] => 0
  | [name] => name.utf8ByteSize
  | name :: rest => name.utf8ByteSize + 1 + size rest

def nameSize (place : Path) : Nat :=
  (place.getLastD "").utf8ByteSize

/-- The place beside another one whose name goes on with an ending. -/
def beside (place : Path) (ending : String) : Path :=
  place.dropLast ++ [place.getLastD "" ++ ending]

def log (place : Path) : Path := beside place "-wal"

def index (place : Path) : Path := beside place "-shm"

def journal (place : Path) : Path := beside place "-journal"

/-- The places of the files that a database can have beside its own. -/
def besides (place : Path) : List Path :=
  [log place, index place, journal place]

end Path

end PaymentOrders
