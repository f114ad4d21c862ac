/-
Module: WebHost.CommandLine.ClientProgram
Purpose: The client as a program.
Main exports:
  ClientArguments, ClientArguments.parse, Surroundings, runClient
-/
import WebHost.Client.Send
import WebHost.Client.Session
import WebHost.Client.Socket
import WebHost.CommandLine.Arguments

namespace WebHost

/-!
The program makes the demonstration calls under one mount, stopping at the
first that gets no response, and then opens a session, unless that is to be
left out, and greets.
-/

/-- What the command line asks for. -/
structure ClientArguments where
  url : String
  socketUrl : String
  mount : Mount
  protocols : List String
  skipsSocket : Bool
  logLevel : String
deriving Repr, Inhabited, DecidableEq

/-- The options of the client. -/
def clientRules : List OptionRule :=
  [{ name := "url"
     letter := some 'u'
     kind := .single
     accepts := fun _ => true },
   { name := "ws-url"
     letter := some 'w'
     kind := .single
     accepts := fun _ => true },
   { name := "mount"
     letter := some 'm'
     kind := .single
     accepts := fun value => (Mount.ofName? value).isSome },
   { name := "protocol"
     letter := some 'p'
     kind := .repeated
     accepts := fun _ => true },
   { name := "skip-websocket"
     letter := none
     kind := .flag
     accepts := fun _ => false },
   { name := "log-level"
     letter := none
     kind := .single
     accepts := fun _ => true },
   helpRule]

/-- The protocols that are offered unless others are given. -/
def defaultOffers : List String := ["websocket-protocol", "proto-two"]

/-- Read the command line. -/
def ClientArguments.parse (arguments : List String) : Except ArgumentStop ClientArguments :=
  (readArguments clientRules arguments).map fun given =>
    { url := (given.value? "url").getD "http://localhost:3000"
      socketUrl := (given.value? "ws-url").getD "ws://localhost:3000/"
      mount := ((given.value? "mount").bind Mount.ofName?).getD .webservice
      protocols := if given.has "protocol" then given.values "protocol" else defaultOffers
      skipsSocket := given.has "skip-websocket"
      logLevel := (given.value? "log-level").getD "info" }

/-- What a client meets: who answers its calls and its handshake, what then
comes over the connection, and whether its greeting gets out. -/
structure Surroundings where
  network : Network
  socket : SocketNetwork
  stream : List StreamEvent
  greetingSent : Bool
  key : FieldValue

/-- Where nobody can be reached. -/
def Surroundings.unreachable : Surroundings :=
  { network := unreachableNetwork
    socket := unreachableSocket
    stream := []
    greetingSent := false
    key := .ofTexts [] }

/-- What the program says when its session has opened. -/
def clientGreeting : String := "hello from client"

/-- Make the calls and hold the session. -/
def ClientArguments.run (given : ClientArguments) (around : Surroundings) :
    Except ClientError Unit := do
  (fixtureCalls given.mount).forM fun call =>
    (sendRequest around.network call given.url .standard).map fun _ => ()
  if given.skipsSocket then return ()
  else
    let protocol ← connectSocket around.socket given.socketUrl given.protocols around.key
    match runClientSession (fun _ state => (true, state)) protocol clientGreeting
        around.greetingSent around.stream () with
    | (_, .failed, _) => throw .socket
    | _ => return ()

/-- Run the client program: its exit status. -/
def runClient (around : Surroundings) (arguments : List String) : Nat :=
  match ClientArguments.parse arguments with
  | .error stop => stop.status
  | .ok given =>
      match given.run around with
      | .ok _ => 0
      | .error _ => 1

end WebHost
