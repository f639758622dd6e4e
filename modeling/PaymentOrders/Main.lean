import Std.Time.DateTime.Timestamp
import PaymentOrders.CommandLine
import PaymentOrders.Wire.Archive
/-!
# The program

Reads the files that a command is about, runs it, writes the files back and prints what the
command says.
-/

namespace PaymentOrders.Program

open CommandLine

def usage : String :=
  "Case Payment Orders CLI\n\nUsage: cpo [--db PATH] [--actor NAME] COMMAND\n\n" ++
    "  db schema-version | migrate [--dry-run] | integrity-check\n" ++
    "  db backup --out PATH | restore --in PATH\n" ++
    "  order create | update | get | query | delete | history\n" ++
    "  uid generate [--count N]\n"

def pathsOf (invocation : Invocation) : List String :=
  let other :=
    match invocation.command with
    | .backup target => [target]
    | .restore source => [source]
    | _ => []
  invocation.database :: other

def readings (text : String) : List String :=
  match Location.ofText text with
  | .ok location => [text, location.path]
  | .error _ => [text]

/-- The places on the ways that a command may go, outermost first, and those beside its files. -/
def placesOf (invocation : Invocation) : List Path :=
  ((pathsOf invocation).flatMap readings).flatMap fun text =>
    let ways := ((List.range (Path.names text).length).map fun n =>
      ((Path.names text).take (n + 1)).foldl Path.step (Path.start text)).eraseDups
    ways ++ (ways.getLast?.map Path.besides).getD []

def readEntry (place : Path) : IO (Option Entry) := do
  try
    return some (Wire.entryOfText (← IO.FS.readFile (Path.toText place)))
  catch
    | .noFileOrDirectory .. => return none
    | .inappropriateType .. => return some .directory
    | problem => throw problem

def readPlace (disk : Disk) (place : Path) : IO Disk := do
  if disk.isDirectory place.dropLast && (disk.get? place).isNone then
    if let some entry ← readEntry place then
      return disk.put place entry
  return disk

def writeEntry (place : Path) (entry : Entry) : IO Unit :=
  match entry with
  | .directory => IO.FS.createDir (Path.toText place)
  | .database content layout =>
      IO.FS.writeFile (Path.toText place) (Wire.fileText ⟨content, layout⟩)
  | .text content => IO.FS.writeFile (Path.toText place) content

/-- Writes what has changed and removes the files that are gone. A directory was made before what
is in it. -/
def writeChanges (before after : Disk) : IO Unit := do
  for (place, _) in before.entries do
    if (after.get? place).isNone then
      IO.FS.removeFile (Path.toText place)
  for (place, entry) in after.entries.reverse do
    if before.get? place ≠ some entry then
      writeEntry place entry

def numberOf (bytes : ByteArray) : Nat :=
  bytes.toList.foldl (fun n byte => n * 256 + byte.toNat) 0

/-- Two to the power of 80: the part of an order id that is left to chance. -/
def chanceCount : Nat := 1208925819614629174706176

/-- What a command takes from outside, for some number of fresh case ids. A fresh order id
starts with the time in milliseconds. -/
def readOutside (count : Nat) : IO (Option Outside) := do
  let now ← Std.Time.Timestamp.now
  let nanos := now.toNanosecondsSinceUnixEpoch.val
  let chance := numberOf (← IO.getRandomBytes 10)
  let random ← IO.getRandomBytes (64 * count + 64).toUSize
  return (Timestamp.ofUnixNanos? nanos.toNat).map fun reading => {
    fresh := .ofNat (nanos.toNat / 1000000 * chanceCount + chance)
    clock := fun _ => reading
    nanos := fun _ => nanos
    random := random.toList }

def freshCount : Command → Nat
  | .generate count => count.toNat
  | _ => 0

def report (ending : Ending) : IO Unit := do
  match ending with
  | .printed document => IO.println document.pretty
  | .failed report => IO.eprintln (Ending.errorDocument report).pretty
  | .help => IO.print usage
  | .refused => IO.eprint usage

def run (arguments : List String) : IO Nat := do
  match Request.ofArguments arguments with
  | .run invocation =>
      let before ← (placesOf invocation).foldlM readPlace Disk.empty
      match ← readOutside (freshCount invocation.command) with
      | some outside =>
          let (ending, after) := CommandLine.run arguments outside before
          writeChanges before after
          report ending
          return ending.status
      | none =>
          IO.eprintln "the clock is out of range"
          return Ending.statusOfKind .fatal
  | .help =>
      report .help
      return Ending.status .help
  | .refused =>
      report .refused
      return Ending.status .refused

end PaymentOrders.Program

def main (arguments : List String) : IO UInt32 := do
  return (← PaymentOrders.Program.run arguments).toUInt32
