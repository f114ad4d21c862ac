/-
Module: WebHost.Demo
Purpose: The demonstration services and the echo protocol.
Main exports:
  Demo, demoService, echoHandler, Server.addDemo
-/
import WebHost.Server.Basic
import WebHost.Session.Basic

namespace WebHost

/-!
Two services have the same four entry points under different names.  Each
counts its calls; POST and PUT greet whoever sent content and refuse whoever
did not.  The echo protocol owes a session one greeting for each frame read
from it, and pays one at a poll.
-/

/-- What the demonstration remembers: calls by method, sessions and frames, the
texts read in order, and the greetings owed to each open session. -/
structure Demo where
  gets : Nat
  posts : Nat
  puts : Nat
  deletes : Nat
  opened : Nat
  frames : Nat
  closed : Nat
  texts : List String
  owed : List (SessionId × Nat)
deriving Repr, Inhabited, DecidableEq

namespace Demo

def initial : Demo :=
  { gets := 0
    posts := 0
    puts := 0
    deletes := 0
    opened := 0
    frames := 0
    closed := 0
    texts := []
    owed := [] }

/-- The greetings owed to a session, if it has an entry. -/
def owed? (demo : Demo) (id : SessionId) : Option Nat :=
  demo.owed.lookup id

/-- Note how many greetings a session is owed. -/
def setOwed (demo : Demo) (id : SessionId) (count : Nat) : Demo :=
  { demo with owed := (id, count) :: demo.owed.filter (·.1 ≠ id) }

/-- Forget a session. -/
def forget (demo : Demo) (id : SessionId) : Demo :=
  { demo with owed := demo.owed.filter (·.1 ≠ id) }

end Demo

/-- What GET answers. -/
def getGreeting : String := "hello get world"

/-- What the echo protocol answers. -/
def echoGreeting : String := "hello world"

/-- Greet a request with content, refuse one without. -/
def greetContent (kind : String) (request : Request) (response : Response) : Response :=
  if request.hasContent then response.setPlainContent ("hello " ++ kind ++ " world")
  else response.setStatus .badRequest

def demoGet : EntryPoint Demo := fun _ response demo =>
  (response.setPlainContent getGreeting, { demo with gets := demo.gets + 1 })

def demoPost : EntryPoint Demo := fun request response demo =>
  (greetContent "post" request response, { demo with posts := demo.posts + 1 })

def demoPut : EntryPoint Demo := fun request response demo =>
  (greetContent "put" request response, { demo with puts := demo.puts + 1 })

def demoDelete : EntryPoint Demo := fun _ response demo =>
  (response.setJsonContent (.list [.text "hello", .text "world"]),
    { demo with deletes := demo.deletes + 1 })

/-- The demonstration service under a name; `stem` starts the path of each of
its entry points. -/
def demoService (name stem : String) : Service Demo :=
  ((((Service.empty name).set (stem ++ "get") .get demoGet).set (stem ++ "post") .post
    demoPost).set (stem ++ "put") .put demoPut).set (stem ++ "delete") .delete demoDelete

/-- A frame was read from a session. -/
def echoRead (info : SessionInfo) (frame : Frame) (demo : Demo) : Demo :=
  let texts := match frame with
    | .text text => demo.texts ++ [text]
    | .binary _ => demo.texts
  let counted := { demo with frames := demo.frames + 1, texts := texts }
  counted.setOwed info.id ((counted.owed? info.id).getD 0 + 1)

/-- A session may be paid a greeting. -/
def echoWrite (info : SessionInfo) (demo : Demo) : Option Frame × Demo :=
  match demo.owed? info.id with
  | some (count + 1) => (some (.text echoGreeting), demo.setOwed info.id count)
  | _ => (none, demo)

/-- The echo protocol. -/
def echoHandler : Handler Demo :=
  { onOpen := fun info demo => { demo with opened := demo.opened + 1 }.setOwed info.id 0
    onRead := fun info frame demo => (true, echoRead info frame demo)
    onWrite := echoWrite
    onClose := fun info demo => { demo with closed := demo.closed + 1 }.forget info.id }

/-- Register both demonstration services, and the echo protocol under every
configured protocol name. -/
def Server.addDemo (server : Server Demo) : Server Demo :=
  let (_, server) := server.addService (demoService "webservice" "")
  let (_, server) := server.addService (demoService "web" "some_")
  server.config.websocket.protocols.foldl
    (fun current name => current.addProtocol name echoHandler) server

end WebHost
