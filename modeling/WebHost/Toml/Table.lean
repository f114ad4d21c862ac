/-
Module: WebHost.Toml.Table
Purpose: How the statements of a TOML document build its tables.
Main exports:
  Toml.Node, Toml.assign, Toml.Builder, Toml.Builder.openTable, Toml.Builder.openElement,
  Toml.Builder.assign, Toml.Builder.finish
-/
import WebHost.Config.Document

namespace WebHost.Toml

/-!
A table is made by a header, by the header of a table below it (it is implicit
then, and may have a header of its own later), or by a dotted key (it is
dotted then, and only dotted keys add to it).  Nothing is defined twice: a
statement that would do so has no result.
-/

/-- An entry of a table under construction. -/
inductive Node where
  | value (value : Document)
  | table (implicit dotted : Bool) (entries : List (String × Node))
  | elements (tables : List (List (String × Node)))
deriving Repr, Inhabited

/-- Entries of a table under construction. -/
abbrev Entries := List (String × Node)

/-- Replace the entry of this name. -/
def replace (name : String) (node : Node) : Entries → Entries
  | [] => []
  | (first, old) :: rest =>
      if first = name then (name, node) :: rest else (first, old) :: replace name node rest

/-- Define a name below a path of dotted keys. -/
def assign (value : Document) (name : String) : List String → Entries → Option Entries
  | [], entries =>
      match entries.lookup name with
      | some _ => none
      | none => some (entries ++ [(name, .value value)])
  | part :: path, entries =>
      match entries.lookup part with
      | none =>
          (assign value name path []).map fun below =>
            entries ++ [(part, .table true true below)]
      | some (.table implicit dotted below) =>
          if !implicit ∨ (path = [] ∧ !dotted) then none
          else
            (assign value name path below).map fun changed =>
              replace part (.table implicit dotted changed) entries
      | some (.elements tables) =>
          match path, tables.getLast? with
          | _ :: _, some last =>
              (assign value name path last).map fun changed =>
                replace part (.elements (tables.dropLast ++ [changed])) entries
          | _, _ => none
      | some (.value _) => none

/-- Change the table at a path of headers; missing tables on the way are made,
implicit ones.  The way leads through the last element of an array. -/
def changeAt {α : Type} (change : Entries → Option (α × Entries)) :
    List String → Entries → Option (α × Entries)
  | [], entries => change entries
  | part :: path, entries =>
      match entries.lookup part with
      | none =>
          (changeAt change path []).map fun (result, below) =>
            (result, entries ++ [(part, .table true false below)])
      | some (.table implicit dotted below) =>
          (changeAt change path below).map fun (result, changed) =>
            (result, replace part (.table implicit dotted changed) entries)
      | some (.elements tables) =>
          match tables.getLast? with
          | some last =>
              (changeAt change path last).map fun (result, changed) =>
                (result, replace part (.elements (tables.dropLast ++ [changed])) entries)
          | none => none
      | some (.value _) => none

/-- The tables closed so far and the one that statements add to, with the path
of its header and whether it is an element of an array. -/
structure Builder where
  root : Entries
  current : Entries
  path : List String
  name : Option String
  element : Bool
deriving Repr, Inhabited

namespace Builder

def start : Builder :=
  { root := []
    current := []
    path := []
    name := none
    element := false }

/-- Close the current table: the entries of the whole document so far. -/
def close (builder : Builder) : Option Entries :=
  match builder.name with
  | none => some builder.current
  | some name =>
      let place : Entries → Option (Unit × Entries) := fun entries =>
        if builder.element then
          match entries.lookup name with
          | some (.elements tables) =>
              some ((), replace name (.elements (tables ++ [builder.current])) entries)
          | _ => none
        else
          match entries.lookup name with
          | none => some ((), entries ++ [(name, .table false false builder.current)])
          | some _ => none
      (changeAt place builder.path builder.root).map (·.2)

/-- The header of a table. -/
def openTable (builder : Builder) (path : List String) (name : String) : Option Builder := do
  let root ← builder.close
  let take : Entries → Option (Entries × Entries) := fun entries =>
    match entries.lookup name with
    | none => some ([], entries)
    | some (.table true false below) => some (below, entries.filter (·.1 ≠ name))
    | some _ => none
  let (current, root) ← changeAt take path root
  some { root := root, current := current, path := path, name := some name, element := false }

/-- The header of an element of an array of tables. -/
def openElement (builder : Builder) (path : List String) (name : String) : Option Builder := do
  let root ← builder.close
  let prepare : Entries → Option (Unit × Entries) := fun entries =>
    match entries.lookup name with
    | none => some ((), entries ++ [(name, .elements [])])
    | some (.elements _) => some ((), entries)
    | some _ => none
  let (_, root) ← changeAt prepare path root
  some { root := root, current := [], path := path, name := some name, element := true }

/-- A key with its value. -/
def define (builder : Builder) (path : List String) (name : String) (value : Document) :
    Option Builder :=
  (assign value name path builder.current).map fun current => { builder with current := current }

end Builder

mutual

/-- The document that a node stands for. -/
def Node.document : Node → Document
  | .value value => value
  | .table _ _ entries => .table (documentEntries entries)
  | .elements tables => .list (documentTables tables)

def documentEntries : List (String × Node) → List (String × Document)
  | [] => []
  | (name, node) :: rest => (name, node.document) :: documentEntries rest

def documentTables : List (List (String × Node)) → List Document
  | [] => []
  | entries :: rest => .table (documentEntries entries) :: documentTables rest

end

end WebHost.Toml
