/-
Module: WebHost.Config.Json
Purpose: Configurations given as JSON.
Main exports:
  Document.ofJson, Config.ofJson?
-/
import WebHost.Config.Schema
import WebHost.Json.Value

namespace WebHost

/-!
A JSON value says the same as a configuration file of the same shape; null
stands for what is absent.
-/

namespace Document

mutual

/-- The document that a JSON value writes. -/
def ofJson : Json → Document
  | .null => .absent
  | .bool value => .flag value
  | .integer value => .whole value
  | .float value => .real value
  | .text value => .text value
  | .list items => .list (ofJsonItems items)
  | .object members => .table (ofJsonMembers members)

def ofJsonItems : List Json → List Document
  | [] => []
  | item :: rest => ofJson item :: ofJsonItems rest

def ofJsonMembers : List (String × Json) → List (String × Document)
  | [] => []
  | (name, value) :: rest => (name, ofJson value) :: ofJsonMembers rest

end

end Document

/-- The configuration that a JSON value gives; null gives the standard one. -/
def Config.ofJson? : Json → Option Config
  | .null => some .standard
  | value => Config.ofDocument? (Document.ofJson value)

end WebHost
