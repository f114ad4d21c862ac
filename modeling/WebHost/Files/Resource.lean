/-
Module: WebHost.Files.Resource
Purpose: Static resources under a root directory.
Main exports:
  Location, Location.text, relativeParts?, resolve?, NameSet
-/
import WebHost.Files.Tree

namespace WebHost

/-!
A request path resolves to the file it names; else, if it names a directory
(the root itself for an empty path), to the index page in it; else to the
first fallback name, in the order of the set, that names a file below it.  A
path or a fallback name with a `..` part never resolves, so what is found lies
under the root.
-/

/-- The page that stands for its directory. -/
def indexFile : String := "index.html"

/-- A place under a root, given by the parts of the way to it. -/
structure Location where
  root : String
  parts : List String
deriving Repr, Inhabited, DecidableEq

/-- A path with one more part. -/
def joinPart (path part : String) : String :=
  if path = "" || path.toList.getLast? = some '/' then path ++ part else path ++ "/" ++ part

/-- The path of the location. -/
def Location.text (location : Location) : String :=
  location.parts.foldl joinPart location.root

/-- The parts of a path below some directory, unless one of them goes up. -/
def relativeParts? (path : String) : Option (List String) :=
  if (pathParts path).contains ".." then none else some (pathParts path)

/-- The file that a request path stands for under a root. -/
def resolve? (files : FileSystem) (root path : String) (fallbacks : List String) :
    Option Location :=
  match relativeParts? path with
  | none => none
  | some parts =>
      let place : Location := { root := root, parts := parts }
      let index : Location := { root := root, parts := parts ++ [indexFile] }
      if parts ≠ [] ∧ files.isFile place.text then some place
      else if files.isDirectory place.text ∧ files.isFile index.text then some index
      else
        fallbacks.findSome? fun name =>
          match relativeParts? name with
          | none => none
          | some below =>
              let candidate : Location := { root := root, parts := parts ++ below }
              if files.isFile candidate.text then some candidate else none

/-- A set of names in increasing order. -/
structure NameSet where
  names : List String
deriving Repr, Inhabited, DecidableEq

namespace NameSet

def empty : NameSet := { names := [] }

def contains (set : NameSet) (name : String) : Bool :=
  set.names.contains name

/-- Put a name in its place among names in increasing order. -/
def insertName (name : String) : List String → List String
  | [] => [name]
  | first :: rest =>
      if name = first then first :: rest
      else if name < first then name :: first :: rest
      else first :: insertName name rest

def insert (set : NameSet) (name : String) : NameSet :=
  { names := insertName name set.names }

def erase (set : NameSet) (name : String) : NameSet :=
  { names := set.names.filter (· ≠ name) }

def ofList (names : List String) : NameSet :=
  names.foldl insert empty

end NameSet

end WebHost
