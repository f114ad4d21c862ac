/-
Module: WebHost.Method
Purpose: The four methods that entry points can be registered for.
Main exports:
  Method, Method.name, Method.ofToken?, Method.parse, Method.acceptsBody, UnknownMethod
-/
import WebHost.Text.Ascii

namespace WebHost

open Text

/-!
Method tokens on the wire are case-sensitive; a method named by a user may be
in any letter case.  Only POST and PUT carry bodies.
-/

/-- The methods of entry points, in the order in which entry points are listed. -/
inductive Method where
  | get
  | post
  | put
  | delete
deriving Repr, Inhabited, DecidableEq

namespace Method

def all : List Method := [.get, .post, .put, .delete]

/-- The token of the method. -/
def name : Method → String
  | .get => "GET"
  | .post => "POST"
  | .put => "PUT"
  | .delete => "DELETE"

/-- The name of the method in diagnostics. -/
def label : Method → String
  | .get => "Get"
  | .post => "Post"
  | .put => "Put"
  | .delete => "Delete"

/-- The place of the method in the order of `all`. -/
def rank : Method → Nat
  | .get => 0
  | .post => 1
  | .put => 2
  | .delete => 3

/-- The method with exactly this token. -/
def ofToken? (token : String) : Option Method :=
  all.find? fun method => method.name == token

/-- Requests of this method may carry a body. -/
def acceptsBody : Method → Bool
  | .post => true
  | .put => true
  | _ => false

end Method

/-- A name that no method has. -/
structure UnknownMethod where
  name : String
deriving Repr, Inhabited, DecidableEq

def UnknownMethod.message (unknown : UnknownMethod) : String :=
  "unknown request type '" ++ unknown.name ++ "'"

/-- The method with this name in any letter case. -/
def Method.parse (name : String) : Except UnknownMethod Method :=
  match Method.all.find? fun method => equalFold method.name name with
  | some method => .ok method
  | none => .error { name := name }

end WebHost
