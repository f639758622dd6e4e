import PaymentOrders.Failure
import PaymentOrders.Text.Decimal
import PaymentOrders.Text.Parts
/-!
# Locations

What a text says about where a database is and how it is opened. Most texts are paths. A text
that starts with `file:` is cut into a path and options, in which characters may be written by
number; a database can also be kept in memory, where it is lost when it is closed. The systems that
keep files are not told apart: what some of them do otherwise with locks and with the index of a log
is left out.
-/

namespace PaymentOrders

inductive Access where
  /-- Its file is made if it is missing. -/
  | create
  /-- Its file has to be there. -/
  | existing
  /-- Its file has to be there, and is not written to. -/
  | readOnly
  | inMemory
  deriving DecidableEq, Repr

def Access.ofName? (name : String) : Option Access :=
  if name = "rwc" then some .create
  else if name = "rw" then some .existing
  else if name = "ro" then some .readOnly
  else if name = "memory" then some .inMemory
  else none

structure Location where
  path : String
  access : Access
  deriving DecidableEq, Repr

namespace Location

/-- Whether a database is in memory. A path without characters is kept nowhere else. -/
def isInMemory (location : Location) : Bool :=
  location.access == .inMemory || location.path == "" || location.path == ":memory:"

/-- The bytes of a text in which a byte may be written as a percent sign and two digits. -/
def decodeBytes : List Char → List UInt8
  | [] => []
  | '%' :: a :: b :: cs =>
      match Text.hexValue? a, Text.hexValue? b with
      | some high, some low => UInt8.ofNat (16 * high + low) :: decodeBytes cs
      | _, _ => String.utf8EncodeChar '%' ++ decodeBytes (a :: b :: cs)
  | c :: cs => String.utf8EncodeChar c ++ decodeBytes cs
termination_by cs => cs.length

/-- The text that a part of a location stands for, which ends at the first byte zero. -/
def decode (cs : List Char) : String :=
  let bytes := (decodeBytes cs).takeWhile fun byte => byte != 0
  (String.fromUTF8? ⟨bytes.toArray⟩).getD (String.ofList cs)

def readOption (cs : List Char) : String × String :=
  (decode (cs.takeWhile (· != '=')), decode ((cs.dropWhile (· != '=')).drop 1))

/-- The systems that files can be kept by. The system `memdb` keeps them in memory. -/
def systems : List String :=
  ["unix", "unix-none", "unix-dotfile", "unix-excl", "memdb"]

def withOption (location : Location) (option : String × String) : Except Fault Location :=
  let (name, value) := option
  if name = "mode" then
    match Access.ofName? value with
    | some access => .ok { location with access }
    | none => .error (.unknownAccess value)
  else if name = "cache" ∧ value ≠ "shared" ∧ value ≠ "private" then
    .error (.unknownCache value)
  else
    .ok location

/-- The text behind the machine that a location names; only the machine at hand has databases. -/
def afterAuthority (cs : List Char) : Except Fault (List Char) :=
  match cs with
  | '/' :: '/' :: rest =>
      let name := String.ofList (rest.takeWhile (· != '/'))
      if name = "" ∨ name = "localhost" then .ok (rest.dropWhile (· != '/'))
      else .error (.unknownAuthority name)
  | _ => .ok cs

/-- The location that the text behind `file:` stands for. -/
def ofParts (cs : List Char) : Except Fault Location := do
  let cs ← afterAuthority cs
  let body := cs.takeWhile (· != '#')
  let path := decode (body.takeWhile (· != '?'))
  let written := Text.parts '&' ((body.dropWhile (· != '?')).drop 1)
  let options := (written.map readOption).filter fun option => option.1 ≠ ""
  let location ← options.foldlM withOption ⟨path, .create⟩
  match options.reverse.lookup "vfs" with
  | none => return location
  | some system =>
      if systems.contains system then
        return if system = "memdb" then { location with access := .inMemory } else location
      else .error (.unknownSystem system)

def scheme : List Char := "file:".toList

def ofText (text : String) : Except Fault Location :=
  if scheme.isPrefixOf text.toList then ofParts (text.toList.drop scheme.length)
  else .ok ⟨text, .create⟩

end Location

end PaymentOrders
