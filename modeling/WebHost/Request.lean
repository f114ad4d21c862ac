/-
Module: WebHost.Request
Purpose: A request as entry points see it.
Main exports:
  Request, Request.splitQuery, Request.argument?, Request.contentText, Request.contentJson?
-/
import WebHost.Json.Reader
import WebHost.Method

namespace WebHost

open Text

/-!
An entry point sees the method, the path as it was sent, the fragments of the
query, the address of the client and the body.
-/

/-- A request for an entry point. -/
structure Request where
  method : Method
  url : String
  arguments : List String
  clientIp : String
  content : Bytes
deriving Repr, Inhabited, DecidableEq

namespace Request

/-- The request for a path, without query, client or content. -/
def ofUrl (url : String) (method : Method) : Request :=
  { method := method
    url := url
    arguments := []
    clientIp := ""
    content := [] }

/-- The fragments of a query between ampersands, empty ones left out. -/
def splitQuery (query : Option String) : List String :=
  match query with
  | none => []
  | some text => ((text.toList.splitOn '&').filter (· ≠ [])).map String.ofList

/-- What a fragment says about a key: the text after its first equals sign, or
the empty text if the fragment is the key alone. -/
def fragmentValue? (key : String) (fragment : String) : Option String :=
  match cutAt '=' fragment.toList with
  | some (name, value) => if name = key.toList then some (String.ofList value) else none
  | none => if fragment = key then some "" else none

/-- The value of the first fragment with this key. -/
def argument? (request : Request) (key : String) : Option String :=
  request.arguments.findSome? (fragmentValue? key)

def hasContent (request : Request) : Bool :=
  !request.content.isEmpty

/-- The content as text, with U+FFFD in the place of what is no character. -/
def contentText (request : Request) : String :=
  decodeLossy request.content

/-- The JSON value that the content writes, if it does. -/
def contentJson? (request : Request) : Option Json :=
  if request.content.isEmpty then none else Json.ofBytes? request.content

end Request

end WebHost
