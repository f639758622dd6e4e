import PaymentOrders.Json.Value
/-!
# Writing documents

`compact` writes a document on one line without blanks, `pretty` with one member or item on a
line, two blanks further in than what it belongs to.
-/

namespace PaymentOrders.Json

def hexDigit (n : Nat) : Char :=
  Nat.digitChar (n % 16)

def escapeNumber (n : Nat) : List Char :=
  ['\\', 'u', '0', '0', hexDigit (n / 16), hexDigit n]

def escape (c : Char) : List Char :=
  if c = '"' then ['\\', '"']
  else if c = '\\' then ['\\', '\\']
  else if c = '\n' then ['\\', 'n']
  else if c = '\r' then ['\\', 'r']
  else if c = '\t' then ['\\', 't']
  else if c = Char.ofNat 8 then ['\\', 'b']
  else if c = Char.ofNat 12 then ['\\', 'f']
  else if c.toNat < 32 then escapeNumber c.toNat
  else [c]

def quote (s : String) : List Char :=
  '"' :: (s.toList.flatMap escape ++ ['"'])

/-- A value that holds no other values. -/
def atom : Json → List Char
  | null => "null".toList
  | bool true => "true".toList
  | bool false => "false".toList
  | integer n => (toString n).toList
  | real x => x.toText.toList
  | string s => quote s
  | array _ => "[]".toList
  | object _ => "{}".toList

def joined (between : List Char) : List (List Char) → List Char
  | [] => []
  | [part] => part
  | part :: parts => part ++ between ++ joined between parts

mutual

def compactChars : Json → List Char
  | array items => '[' :: (joined [','] (compactItems items) ++ [']'])
  | object members => '{' :: (joined [','] (compactMembers members) ++ ['}'])
  | value => atom value

def compactItems : List Json → List (List Char)
  | [] => []
  | item :: items => compactChars item :: compactItems items

def compactMembers : List (String × Json) → List (List Char)
  | [] => []
  | (name, value) :: members =>
      (quote name ++ ':' :: compactChars value) :: compactMembers members

end

def newline (depth : Nat) : List Char :=
  '\n' :: List.replicate (2 * depth) ' '

/-- Parts in brackets, one on a line. -/
def block (opening closing : Char) (depth : Nat) (parts : List (List Char)) : List Char :=
  opening :: (newline (depth + 1) ++ joined (',' :: newline (depth + 1)) parts ++
    newline depth ++ [closing])

mutual

def prettyChars (depth : Nat) : Json → List Char
  | array (item :: items) => block '[' ']' depth (prettyItems (depth + 1) (item :: items))
  | object (member :: members) =>
      block '{' '}' depth (prettyMembers (depth + 1) (member :: members))
  | value => atom value

def prettyItems (depth : Nat) : List Json → List (List Char)
  | [] => []
  | item :: items => prettyChars depth item :: prettyItems depth items

def prettyMembers (depth : Nat) : List (String × Json) → List (List Char)
  | [] => []
  | (name, value) :: members =>
      (quote name ++ ':' :: ' ' :: prettyChars depth value) :: prettyMembers depth members

end

def compact (value : Json) : String :=
  String.ofList (compactChars value)

def pretty (value : Json) : String :=
  String.ofList (prettyChars 0 value)

end PaymentOrders.Json
