/-
Module: WebHost.Config.Document
Purpose: The data that configuration files of any format hold.
Main exports:
  Document, Document.members?, Document.readField
-/
import WebHost.Number.Binary

namespace WebHost

open Number

/-!
A configuration format yields a document; the schema reads its settings from
documents and so does not depend on the format.  A record may be written as a
table, whose unknown entries are ignored, or as a list of its fields in order,
whose tail may be missing.  A date is a record without known fields.
-/

/-- The content of a configuration file. -/
inductive Document where
  | absent
  | flag (value : Bool)
  | whole (value : Int)
  | real (value : Binary)
  | text (value : String)
  | moment
  | list (items : List Document)
  | table (entries : List (String × Document))
deriving Repr, Inhabited

namespace Document

/-- The fields that a document gives to a record with these field names. -/
def members? (names : List String) : Document → Option (List (String × Document))
  | .table entries => some entries
  | .list items => some (names.zip items)
  | .moment => some []
  | _ => none

/-- The value of a field, or its default when it is not given. -/
def readField {α : Type} (members : List (String × Document)) (name : String) (default : α)
    (read : Document → Option α) : Option α :=
  match members.lookup name with
  | some value => read value
  | none => some default

def readText? : Document → Option String
  | .text value => some value
  | _ => none

def readFlag? : Document → Option Bool
  | .flag value => some value
  | _ => none

/-- A whole number that is not negative. -/
def readNatural? : Document → Option Nat
  | .whole value => if 0 ≤ value then some value.toNat else none
  | _ => none

/-- A number as a double. -/
def readReal? : Document → Option Binary
  | .real value => some value
  | .whole value => some (Binary.roundRatio binary64 (decide (value < 0)) value.natAbs 1)
  | _ => none

def readTexts? : Document → Option (List String)
  | .list items => items.mapM readText?
  | _ => none

/-- A value that may be absent. -/
def readOptional? {α : Type} (read : Document → Option α) : Document → Option (Option α)
  | .absent => some none
  | value => (read value).map some

end Document

end WebHost
