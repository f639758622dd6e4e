/-!
# Arguments

Arguments are read from left to right on the level of one command, until one of them names a
command below it. The value of an option is judged when the argument behind it is read, so a
request for help wins over everything that is wrong behind it and over nothing before it.
-/

namespace PaymentOrders.CommandLine

inductive Arity where
  /-- At most once, without a value. -/
  | flag
  /-- At most once, with a value. -/
  | once
  /-- Any number of times, each with a value. -/
  | many
  deriving DecidableEq, Repr

structure OptionRule where
  name : String
  arity : Arity
  required : Bool
  accepts : String → Bool

/-- Options with their values, in the order in which they are given; a flag has no value. -/
abbrev Given := List (String × String)

namespace Given

def has (name : String) (given : Given) : Bool :=
  given.any fun option => option.1 == name

def values (name : String) (given : Given) : List String :=
  given.filterMap fun option => if option.1 = name then some option.2 else none

def value? (name : String) (given : Given) : Option String :=
  given.lookup name

end Given

structure Progress where
  given : Given
  /-- The last option, and its value once that is read, as long as they are not judged. -/
  pending : Option (OptionRule × Option String)

namespace Progress

def start : Progress := ⟨[], none⟩

/-- Whether the next argument has to be a value. -/
def awaits (progress : Progress) : Bool :=
  match progress.pending with
  | some (_, none) => true
  | _ => false

/-- Adds an option, if it may be given (again) and its value is accepted. -/
def add (rule : OptionRule) (value : String) (given : Given) : Option Given :=
  if rule.accepts value && (rule.arity == .many || !given.has rule.name) then
    some (given ++ [(rule.name, value)])
  else
    none

def settle (progress : Progress) : Option Given :=
  match progress.pending with
  | none => some progress.given
  | some (_, none) => none
  | some (rule, some value) => add rule value progress.given

def settleWith (rule : OptionRule) (value : String) (progress : Progress) : Option Progress := do
  let given ← progress.settle
  return ⟨← add rule value given, none⟩

def settleAwaiting (rule : OptionRule) (progress : Progress) : Option Progress := do
  return ⟨← progress.settle, some (rule, none)⟩

end Progress

inductive Shape where
  /-- Two dashes and nothing else. -/
  | escape
  /-- Two dashes and a name, with a value behind an equals sign if there is one. -/
  | long (name : String) (value : Option String)
  /-- One dash and more. -/
  | short (first : Char)
  /-- Anything else, one dash alone included. -/
  | plain
  deriving DecidableEq, Repr

def shape (argument : String) : Shape :=
  match argument.toList with
  | ['-', '-'] => .escape
  | '-' :: '-' :: cs =>
      let name := String.ofList (cs.takeWhile fun c => c != '=')
      match cs.dropWhile fun c => c != '=' with
      | [] => .long name none
      | _ :: value => .long name (some (String.ofList value))
  | '-' :: c :: _ => .short c
  | _ => .plain

inductive Stop where
  | help
  | refused
  /-- All arguments are read. -/
  | finished (progress : Progress)
  /-- An argument names a command below; the last option is not judged yet. -/
  | command (name : String) (progress : Progress) (rest : List String)

/-- Goes on as long as nothing is wrong. -/
def Stop.orElse (progress : Option Progress) (next : Progress → Stop) : Stop :=
  match progress with
  | some progress => next progress
  | none => .refused

/-- Help, as long as nothing is wrong before it. -/
def Stop.helpAfter (progress : Progress) : Stop :=
  if progress.settle.isSome then .help else .refused

/-- Reads the arguments of one level, given its options and the commands below it. -/
def readLevel (rules : List OptionRule) (below : List String) (progress : Progress) :
    List String → Stop
  | [] => .finished progress
  | argument :: rest =>
      if !progress.awaits && below.contains argument then
        .command argument progress rest
      else
        match shape argument with
        | .escape => if rest.isEmpty then .finished progress else .refused
        | .long "help" none => Stop.helpAfter progress
        | .long name value =>
            match rules.find? fun rule => rule.name == name with
            | none => .refused
            | some rule =>
                match rule.arity, value with
                | .flag, some _ => .refused
                | .flag, none =>
                    Stop.orElse (progress.settleWith rule "") fun progress =>
                      readLevel rules below progress rest
                | _, some value =>
                    Stop.orElse (progress.settleWith rule value) fun progress =>
                      readLevel rules below progress rest
                | _, none =>
                    Stop.orElse (progress.settleAwaiting rule) fun progress =>
                      readLevel rules below progress rest
        | .short first => if first = 'h' then Stop.helpAfter progress else .refused
        | .plain =>
            match progress.pending with
            | some (rule, none) =>
                readLevel rules below { progress with pending := some (rule, some argument) } rest
            | _ => .refused

/-- A program with commands on several levels. -/
structure Grammar where
  /-- The options of the command that a path leads to. -/
  rules : List String → List OptionRule
  /-- The commands below the command that a path leads to. -/
  below : List String → List String
  /-- The greatest number of levels. -/
  depth : Nat

inductive Reading where
  | help
  | refused
  /-- The path of the command and all options on the way to it. -/
  | accepted (path : List String) (given : Given)

namespace Grammar

def helpName : String := "help"

/-- The commands below a command, help included. -/
def names (grammar : Grammar) (path : List String) : List String :=
  if (grammar.below path).isEmpty then [] else grammar.below path ++ [helpName]

def leads (grammar : Grammar) (path : List String) : List String → Bool
  | [] => true
  | name :: rest =>
      if (grammar.below path).contains name then grammar.leads (path ++ [name]) rest
      else (grammar.names path).contains name && rest.isEmpty

def isComplete (rules : List OptionRule) (given : Given) : Bool :=
  rules.all fun rule => !rule.required || given.has rule.name

/-- Reads the arguments of the command of a path. -/
def readFrom (grammar : Grammar) : Nat → List String → List String → Reading
  | 0, _, _ => .refused
  | fuel + 1, path, arguments =>
      match readLevel (grammar.rules path) (grammar.names path) .start arguments with
      | .help => .help
      | .refused => .refused
      | .finished progress =>
          match progress.settle with
          | some given =>
              if (grammar.below path).isEmpty && isComplete (grammar.rules path) given then
                .accepted path given
              else
                .refused
          | none => .refused
      | .command name progress rest =>
          if name = helpName then
            if grammar.leads path rest then .help else .refused
          else
            match readFrom grammar fuel (path ++ [name]) rest with
            | .accepted path below =>
                match progress.settle with
                | some given => .accepted path (given ++ below)
                | none => .refused
            | reading => reading

def read (grammar : Grammar) (arguments : List String) : Reading :=
  grammar.readFrom grammar.depth [] arguments

end Grammar

end PaymentOrders.CommandLine
