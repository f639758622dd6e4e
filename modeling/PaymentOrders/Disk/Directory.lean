import PaymentOrders.Disk
import PaymentOrders.Failure
/-!
# Directories

Names are followed one after the other, each from a directory that is there: two points lead
back from a directory, not from a name that was never looked up.
-/

namespace PaymentOrders.Disk

def maxNameSize : Nat := 255

/-- The bytes that names may have altogether, with the slashes between them. -/
def maxNamesSize : Nat := 4095

def advance (disk : Disk) (place : Path) (name : String) : Except Obstacle Path :=
  match disk.get? place with
  | none => .error .missing
  | some .directory =>
      if name.utf8ByteSize ≤ maxNameSize then .ok (Path.step place name)
      else .error .nameTooLong
  | some _ => .error .notADirectory

/-- Follows names. There need not be anything where the last one leads. -/
def follow (disk : Disk) (place : Path) (names : List String) : Except Obstacle Path :=
  if names.any fun name => name.toList.contains (Char.ofNat 0) then .error .nulCharacter
  else if maxNamesSize < Path.size names then .error .nameTooLong
  else names.foldlM disk.advance place

def isPresent (disk : Disk) (text : String) : Bool :=
  match disk.follow (Path.start text) (Path.names text) with
  | .ok place => (disk.get? place).isSome
  | .error _ => false

def makeDirectory (disk : Disk) (place : Path) (names : List String) : Except Obstacle Disk := do
  let place ← disk.follow place names
  match disk.get? place with
  | none => .ok (disk.put place .directory)
  | some .directory => .ok disk
  | some _ => .error .taken

/-- Makes a directory and those that are missing on the way to it. The names are given innermost
first; what was made stays when one cannot be made. -/
def makeDirectories (place : Path) : List String → Disk → Except Obstacle Unit × Disk
  | [], disk => (.ok (), disk)
  | name :: outer, disk =>
      match disk.makeDirectory place (name :: outer).reverse with
      | .ok changed => (.ok (), changed)
      | .error .missing =>
          match makeDirectories place outer disk with
          | (.error obstacle, changed) => (.error obstacle, changed)
          | (.ok (), changed) =>
              match changed.makeDirectory place (name :: outer).reverse with
              | .ok final => (.ok (), final)
              | .error obstacle => (.error obstacle, changed)
      | .error obstacle => (.error obstacle, disk)

end PaymentOrders.Disk
