/-
Module: WebHost.Client.Request
Purpose: The calls that a client makes.
Main exports:
  Payload, ClientRequest, ClientRequest.create, ClientRequest.urlUnder, Mount, fixtureCalls
-/
import WebHost.Client.Options
import WebHost.Json.Writer
import WebHost.Method
import WebHost.Mime

namespace WebHost

open Text

/-!
A call has a method, a path below some base, and a payload, which only POST and
PUT may have.  The kind of the payload tells the content type unless another is
given.
-/

/-- What a call sends. -/
inductive Payload where
  | empty
  | json (value : Json)
  | text (text : String)
deriving Repr, Inhabited

namespace Payload

/-- There is nothing to send. -/
def isEmpty : Payload → Bool
  | .empty => true
  | .json _ => false
  | .text value => value = ""

/-- The content type of this kind of payload. -/
def contentType? : Payload → Option String
  | .empty => none
  | .json _ => some applicationJson
  | .text _ => some textPlain

/-- The bytes to send. -/
def toBytes : Payload → Bytes
  | .empty => []
  | .json value => value.toBytes
  | .text value => encode value

/-- The name of this kind of payload. -/
def kind : Payload → String
  | .empty => "empty"
  | .json _ => "json"
  | .text _ => "text"

end Payload

/-- One call of a client. -/
structure ClientRequest where
  method : Method
  path : String
  payload : Payload
  givenType : Option String
deriving Repr, Inhabited

namespace ClientRequest

/-- A call with this payload, which must be empty unless the method carries one. -/
def create (method : Method) (path : String) (payload : Payload) :
    Except ClientError ClientRequest :=
  if !method.acceptsBody && !payload.isEmpty then .error (.bodyNotAllowed method)
  else .ok { method := method, path := path, payload := payload, givenType := none }

/-- A call with this payload, without a word on why there is none. -/
def create? (method : Method) (path : String) (payload : Payload) : Option ClientRequest :=
  (create method path payload).toOption

def get (path : String) : ClientRequest :=
  { method := .get, path := path, payload := .empty, givenType := none }

def delete (path : String) : ClientRequest :=
  { method := .delete, path := path, payload := .empty, givenType := none }

def postJson (path : String) (value : Json) : ClientRequest :=
  { method := .post, path := path, payload := .json value, givenType := none }

def postText (path text : String) : ClientRequest :=
  { method := .post, path := path, payload := .text text, givenType := none }

def putText (path text : String) : ClientRequest :=
  { method := .put, path := path, payload := .text text, givenType := none }

/-- Give the call another content type. -/
def withContentType (request : ClientRequest) (contentType : String) : ClientRequest :=
  { request with givenType := some contentType }

/-- The content type of the call: the one given, else that of its payload. -/
def contentType? (request : ClientRequest) : Option String :=
  request.givenType <|> request.payload.contentType?

/-- The path below a base, with one slash between them. -/
def urlUnder (request : ClientRequest) (base : String) : String :=
  String.ofList
    (trimEndWhile (· == '/') base.toList ++ '/' :: trimStartWhile (· == '/') request.path.toList)

end ClientRequest

/-- Where the demonstration services are mounted. -/
inductive Mount where
  | webservice
  | web
deriving Repr, Inhabited, DecidableEq

namespace Mount

def name : Mount → String
  | .webservice => "webservice"
  | .web => "web"

/-- What the paths of the entry points start with. -/
def stem : Mount → String
  | .webservice => "webservice/"
  | .web => "web/some_"

def ofName? (name : String) : Option Mount :=
  [Mount.webservice, Mount.web].find? fun mount => mount.name == name

/-- The message for a name that no mount has. -/
def unknownMessage (name : String) : String :=
  "unknown mount '" ++ name ++ "', expected 'webservice' or 'web'"

end Mount

/-- One call for each kind of entry point.  DELETE announces text and sends none. -/
def fixtureCalls (mount : Mount) : List ClientRequest :=
  [.get (mount.stem ++ "get"),
   .postJson (mount.stem ++ "post") (.object [("hello", .text "world")]),
   .postText (mount.stem ++ "post") "hello world",
   .putText (mount.stem ++ "put") "hello world",
   (ClientRequest.delete (mount.stem ++ "delete")).withContentType textPlain]

end WebHost
