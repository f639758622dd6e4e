import PaymentOrders.Disk.Layout
import PaymentOrders.Disk.Path
/-!
# Files

The files that the service works on, by their places. A place holds a directory, a database or
some other text.
-/

namespace PaymentOrders

inductive Entry where
  | directory
  | database (content : Store.Database) (layout : Layout := .usual)
  | text (content : String)
  deriving DecidableEq

/-- The files and directories, each place at most once. -/
structure Disk where
  entries : List (Path × Entry)
  deriving DecidableEq

namespace Disk

def empty : Disk := ⟨[]⟩

/-- What is at a place. The root, the place where relative paths start and those above it are
directories. -/
def get? (disk : Disk) (path : Path) : Option Entry :=
  if Path.isTop path then some .directory else disk.entries.lookup path

def put (path : Path) (entry : Entry) (disk : Disk) : Disk :=
  ⟨(path, entry) :: disk.entries.filter fun other => other.1 != path⟩

def erase (path : Path) (disk : Disk) : Disk :=
  ⟨disk.entries.filter fun other => other.1 != path⟩

private theorem lookup_filter_bne {path other : Path} (h : path ≠ other)
    (entries : List (Path × Entry)) :
    (entries.filter fun entry => entry.1 != path).lookup other = entries.lookup other := by
  induction entries with
  | nil => rfl
  | cons entry entries ih =>
      obtain ⟨key, value⟩ := entry
      by_cases hk : key = path
      · have hne : (other == key) = false := by simp [hk, Ne.symm h]
        simp [hk, List.lookup_cons, hk ▸ hne, ih]
      · simp [hk, List.lookup_cons, ih]

theorem get?_put_self {path : Path} (h : Path.isTop path = false) (entry : Entry) (disk : Disk) :
    get? (disk.put path entry) path = some entry := by
  simp [get?, put, h]

theorem get?_put_of_ne {path other : Path} (h : path ≠ other) (entry : Entry) (disk : Disk) :
    get? (disk.put path entry) other = disk.get? other := by
  have hne : (other == path) = false := by simp [Ne.symm h]
  simp only [get?, put, List.lookup_cons, hne, lookup_filter_bne h]

private theorem lookup_filter_bne_self (path : Path) (entries : List (Path × Entry)) :
    (entries.filter fun entry => entry.1 != path).lookup path = none := by
  induction entries with
  | nil => rfl
  | cons entry entries ih =>
      obtain ⟨key, value⟩ := entry
      by_cases hk : key = path
      · simp [hk, ih]
      · have hne : (path == key) = false := by simp [Ne.symm hk]
        simp [hk, List.lookup_cons, hne, ih]

theorem get?_erase_self {path : Path} (h : Path.isTop path = false) (disk : Disk) :
    get? (disk.erase path) path = none := by
  simp [get?, erase, h, lookup_filter_bne_self]

theorem get?_erase_of_ne {path other : Path} (h : path ≠ other) (disk : Disk) :
    get? (disk.erase path) other = disk.get? other := by
  simp only [get?, erase, lookup_filter_bne h]

def isDirectory (disk : Disk) (path : Path) : Bool :=
  disk.get? path == some .directory

end Disk

end PaymentOrders
