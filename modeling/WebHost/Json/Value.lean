/-
Module: WebHost.Json.Value
Purpose: JSON values and their member tables.
Main exports:
  Json, Json.member?, Json.insertMember, Json.record, Json.depth
-/
import WebHost.Number.Binary

namespace WebHost

open Number

/-!
An object is a list of members in increasing order of their names, with at
most one member for a name; `insertMember` keeps that order and lets the last
value for a name win.  Whole numbers that fit a signed or an unsigned 64-bit
word are integers, all others are doubles.
-/

/-- A JSON value. -/
inductive Json where
  | null
  | bool (value : Bool)
  | integer (value : Int)
  | float (value : Binary)
  | text (value : String)
  | list (items : List Json)
  | object (members : List (String × Json))
deriving Repr, Inhabited, BEq

namespace Json

/-- Put a member in its place, replacing one of the same name. -/
def insertMember (name : String) (value : Json) : List (String × Json) → List (String × Json)
  | [] => [(name, value)]
  | (first, old) :: rest =>
      if name = first then (name, value) :: rest
      else if name < first then (name, value) :: (first, old) :: rest
      else (first, old) :: insertMember name value rest

/-- The object with these members, given in any order. -/
def record (members : List (String × Json)) : Json :=
  .object (members.foldl (fun table member => insertMember member.1 member.2 table) [])

/-- The member of an object with this name. -/
def member? (name : String) : Json → Option Json
  | .object members => members.lookup name
  | _ => none

/-- A text, or null when there is none. -/
def ofText? : Option String → Json
  | none => .null
  | some value => .text value

/-- A natural number as a JSON integer. -/
def natural (number : Nat) : Json :=
  .integer number

mutual

/-- How many containers stand inside each other at the deepest place. -/
def depth : Json → Nat
  | .list items => depthItems items + 1
  | .object members => depthMembers members + 1
  | _ => 0

/-- The greatest depth among some items. -/
def depthItems : List Json → Nat
  | [] => 0
  | item :: rest => max (depth item) (depthItems rest)

/-- The greatest depth among some members. -/
def depthMembers : List (String × Json) → Nat
  | [] => 0
  | (_, value) :: rest => max (depth value) (depthMembers rest)

end

end Json

end WebHost
