/-
Module: WebHost.Header.Fields
Purpose: The header of a message: its fields, in order, names repeating.
Main exports:
  Fields, Fields.append, Fields.set, Fields.erase, Fields.get?, Fields.values,
  Fields.setText, Fields.find, Fields.addLine?, Fields.contentLength
-/
import WebHost.Header.Field
import WebHost.Number.Natural
import WebHost.Text.Blank

namespace WebHost

open Number Text

/-!
A header holds any number of values for a name, in their order.  Setting a name
replaces all of them by one value, appending adds one after them, and reading
gives the first.

The operations on text are total: a name or a value that is not legal leaves
the header as it was, and a name that is no field name is never found.
-/

/-- The fields of a message. -/
structure Fields where
  entries : List (FieldName × FieldValue)
deriving Repr, DecidableEq

namespace Fields

/-- The header without fields. -/
def empty : Fields := { entries := [] }

instance : Inhabited Fields := ⟨empty⟩

/-- Every value of a name, in order. -/
def values (fields : Fields) (name : FieldName) : List FieldValue :=
  (fields.entries.filter (·.1 = name)).map (·.2)

/-- The first value of a name. -/
def get? (fields : Fields) (name : FieldName) : Option FieldValue :=
  (fields.values name).head?

/-- The name has a value. -/
def contains (fields : Fields) (name : FieldName) : Bool :=
  (fields.get? name).isSome

/-- Add a value after those that the name has. -/
def append (fields : Fields) (name : FieldName) (value : FieldValue) : Fields :=
  { entries := fields.entries ++ [(name, value)] }

/-- Remove every value of a name. -/
def erase (fields : Fields) (name : FieldName) : Fields :=
  { entries := fields.entries.filter (·.1 ≠ name) }

/-- Give a name this value and no other. -/
def set (fields : Fields) (name : FieldName) (value : FieldValue) : Fields :=
  (fields.erase name).append name value

/-- Give a name this value unless it has one. -/
def setIfAbsent (fields : Fields) (name : FieldName) (value : FieldValue) : Fields :=
  if fields.contains name then fields else fields.set name value

/-- Set a name to a text; a text that is no legal value changes nothing. -/
def setValue (fields : Fields) (name : FieldName) (text : String) : Fields :=
  match FieldValue.ofText? text with
  | some value => fields.set name value
  | none => fields

/-- Set a field by texts; an illegal name or value changes nothing. -/
def setText (fields : Fields) (name text : String) : Fields :=
  match FieldName.parse? name with
  | some name => fields.setValue name text
  | none => fields

/-- Remove every value of the name that a text spells. -/
def eraseText (fields : Fields) (name : String) : Fields :=
  match FieldName.parse? name with
  | some name => fields.erase name
  | none => fields

/-- The first value of a name as text, if it can be read as text. -/
def text? (fields : Fields) (name : FieldName) : Option String :=
  (fields.get? name).bind FieldValue.text?

/-- The first value of the name that a text spells, as text. -/
def find (fields : Fields) (name : String) : Option String :=
  (FieldName.parse? name).bind fields.text?

/-- The name and the value of a header line: what stands before and after the
first colon that a space follows, the line's end apart. -/
def splitLine? (line : String) : Option (String × String) :=
  let content := trimEndWhile (fun c => c == '\r' || c == '\n') line.toList
  (cutAtText [':', ' '] content).map fun (name, value) =>
    (String.ofList name, String.ofList value)

/-- Set the field that a header line states.  There is no result when the line
has no separator, an empty value, or an illegal name or value. -/
def addLine? (fields : Fields) (line : String) : Option Fields := do
  let (name, text) ← splitLine? line
  let name ← FieldName.parse? name
  if text = "" then none
  else
    let value ← FieldValue.ofText? text
    some (fields.set name value)

/-- Set the length that the header declares. -/
def setContentLength (fields : Fields) (length : Nat) : Fields :=
  fields.set .contentLength (.ofNatural length)

/-- The number that a text value declares as a length. -/
def readLength? (text : String) : Option Nat :=
  readCount? wordBound (trimBlanks text.toList)

/-- The declared length; zero when there is none or it is no number. -/
def contentLength (fields : Fields) : Nat :=
  ((fields.text? .contentLength).bind readLength?).getD 0

/-- A content type with its charset, which may be empty. -/
def contentTypeText (mediaType charset : String) : String :=
  if charset = "" then mediaType else mediaType ++ "; charset=" ++ charset

/-- Why a field is refused. -/
inductive FieldError where
  | illegalName
  | illegalValue
deriving Repr, Inhabited, DecidableEq

/-- Append the field that a text and some bytes give. -/
def appendBytes (fields : Fields) (name : String) (value : Bytes) : Except FieldError Fields :=
  match FieldName.parse? name with
  | none => .error .illegalName
  | some name =>
      match FieldValue.ofBytes? value with
      | none => .error .illegalValue
      | some value => .ok (fields.append name value)

@[simp] theorem values_append (fields : Fields) (name other : FieldName) (value : FieldValue) :
    (fields.append name value).values other =
      fields.values other ++ if name = other then [value] else [] := by
  by_cases same : name = other <;> simp [values, append, same]

@[simp] theorem values_erase (fields : Fields) (name other : FieldName) :
    (fields.erase name).values other = if name = other then [] else fields.values other := by
  by_cases same : name = other
  · subst same
    simp [values, erase, List.filter_filter]
  · simp only [values, erase, List.filter_filter, if_neg same]
    congr 2
    funext entry
    by_cases member : entry.1 = other <;> simp [member, Ne.symm same]

@[simp] theorem values_set (fields : Fields) (name other : FieldName) (value : FieldValue) :
    (fields.set name value).values other =
      if name = other then [value] else fields.values other := by
  by_cases same : name = other <;> simp [set, same]

end Fields

end WebHost
