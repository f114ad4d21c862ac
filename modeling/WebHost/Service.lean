/-
Module: WebHost.Service
Purpose: Named services with an entry point for each method and path.
Main exports:
  EntryPoint, Service, Service.set, Service.lookup?, Service.call?, Service.keys,
  Service.describe, splitServicePath
-/
import WebHost.Request
import WebHost.Response
import WebHost.Text.Quoted

namespace WebHost

open Text

/-!
A service is mounted under its name.  Its entry points are keyed by method and
path and kept in the order of these keys, so the list of keys does not depend
on the history of registrations.  An entry point may change the state of the
application, of some type `σ` that this library does not look into.
-/

/-- What an entry point does: it reads the request, fills in the response and
may change the state of the application. -/
abbrev EntryPoint (σ : Type) := Request → Response → σ → Response × σ

/-- The method and the path of an entry point. -/
abbrev EntryKey := Method × String

/-- Keys are ordered by method, then by path. -/
def EntryKey.before (left right : EntryKey) : Bool :=
  left.1.rank < right.1.rank || (left.1 == right.1 && left.2 < right.2)

/-- A service and its entry points, in the order of their keys. -/
structure Service (σ : Type) where
  name : String
  entries : List (EntryKey × EntryPoint σ)

namespace Service

variable {σ : Type}

/-- The service of this name without entry points. -/
def empty (name : String) : Service σ :=
  { name := name, entries := [] }

/-- Put an entry point in its place, replacing the one with the same key. -/
def insertEntry (key : EntryKey) (entry : EntryPoint σ) :
    List (EntryKey × EntryPoint σ) → List (EntryKey × EntryPoint σ)
  | [] => [(key, entry)]
  | (first, old) :: rest =>
      if key = first then (key, entry) :: rest
      else if EntryKey.before key first then (key, entry) :: (first, old) :: rest
      else (first, old) :: insertEntry key entry rest

/-- Register an entry point for a path and a method. -/
def set (service : Service σ) (path : String) (method : Method) (entry : EntryPoint σ) :
    Service σ :=
  { service with entries := insertEntry (method, path) entry service.entries }

/-- The entry point of a path and a method. -/
def lookup? (service : Service σ) (path : String) (method : Method) : Option (EntryPoint σ) :=
  service.entries.lookup (method, path)

def hasEntry (service : Service σ) (path : String) (method : Method) : Bool :=
  (service.lookup? path method).isSome

/-- Run the entry point for the method of the request at a path, if there is
one. -/
def call? (service : Service σ) (path : String) (request : Request) (response : Response)
    (state : σ) : Option (Response × σ) :=
  (service.lookup? path request.method).map fun entry => entry request response state

/-- The keys of the entry points in their order. -/
def keys (service : Service σ) : List EntryKey :=
  service.entries.map (·.1)

/-- One key in diagnostics. -/
def describeKey (key : EntryKey) : String :=
  "(" ++ key.1.label ++ ", " ++ quoteText key.2 ++ ")"

/-- The service in diagnostics: its name and its keys. -/
def describe (service : Service σ) : String :=
  "WebService \x7b name: " ++ quoteText service.name ++ ", entry_points: [" ++
    ", ".intercalate (service.keys.map describeKey) ++ "] \x7d"

end Service

/-- The service name and the entry path of a decoded request path: the text
between the leading slash and the next one, and all after that.  The service
name is not empty. -/
def splitServicePath (path : String) : Option (String × String) :=
  let characters := match path.toList with
    | '/' :: rest => rest
    | rest => rest
  match cutAt '/' characters with
  | some ([], _) => none
  | some (service, rest) => some (String.ofList service, String.ofList rest)
  | none => none

end WebHost
