import PaymentOrders.Store.Database
/-!
# Layouts

How a database is laid out in its file: the size of the pages, the encoding of text, and whether
changes go to a log first. None of that says anything about the rows, but a copy of another
layout cannot always take the place of a database.
-/

namespace PaymentOrders

inductive Encoding where
  | utf8
  | utf16le
  | utf16be
  deriving DecidableEq, Repr

structure Layout where
  pageSize : Nat
  /-- The encoding of text, which is left open until there is a table. -/
  encoding : Option Encoding
  logged : Bool
  deriving DecidableEq, Repr

namespace Layout

def blank : Layout := ⟨4096, none, false⟩

/-- The layout that a database gets unless it is asked for another one. -/
def usual : Layout := ⟨4096, some .utf8, true⟩

/-- The layout with the encoding that tables bring about. -/
def holding (layout : Layout) (content : Store.Database) : Layout :=
  { layout with
    encoding := layout.encoding <|> if content.hasTables then some .utf8 else none }

/-- Whether text is written in two ways that are not the same. -/
def clashes (layout other : Layout) : Bool :=
  match layout.encoding, other.encoding with
  | some encoding, some otherEncoding => encoding != otherEncoding
  | _, _ => false

end Layout

end PaymentOrders
