/-
Module: WebHost.Server.Route
Purpose: Which part of the server answers a request.
Main exports:
  Incoming, Route, Server.route, isUpgradeRequest
-/
import WebHost.Percent
import WebHost.Server.Basic
import WebHost.Target

namespace WebHost

open Text

/-!
A request that asks for an upgrade to WebSocket goes to the protocols.  Any
other goes to the first of these that applies: its method is served at all; its
path decodes to text; for GET, the path stands for a file under the root; the
path names an entry point of a service for this method; else nothing matches.
-/

/-- A request as it was received.  There is no body if it could not be read. -/
structure Incoming where
  method : String
  target : Target
  fields : Fields
  body : Option Bytes
  peer : Option SocketAddress
  upgradable : Bool
deriving Repr, Inhabited

/-- Where a request goes. -/
inductive Route (σ : Type) where
  | methodNotAllowed
  | undecodable
  | resource (location : Location)
  | entry (service : String) (path : String) (method : Method) (run : EntryPoint σ)
  | unmatched

/-- The request asks for an upgrade to WebSocket. -/
def isUpgradeRequest (fields : Fields) : Bool :=
  match fields.text? .upgrade with
  | some value => equalFold value "websocket"
  | none => false

namespace Server

variable {σ : Type}

/-- The file that a decoded path stands for, if the server has a root. -/
def resource? (server : Server σ) (files : FileSystem) (path : String) : Option Location :=
  server.config.http.rootDirectory.bind fun root =>
    resolve? files root path server.resourceNames.names

/-- The entry point that a decoded path names, with its service and its path. -/
def entry? (server : Server σ) (path : String) (method : Method) :
    Option (String × String × EntryPoint σ) := do
  let (name, rest) ← splitServicePath path
  let service ← server.service? name
  let run ← service.lookup? rest method
  some (name, rest, run)

/-- Where a request without an upgrade goes. -/
def route (server : Server σ) (files : FileSystem) (incoming : Incoming) : Route σ :=
  match Method.ofToken? incoming.method with
  | none => .methodNotAllowed
  | some method =>
      match percentDecodeText? incoming.target.path with
      | none => .undecodable
      | some path =>
          match if method = .get then server.resource? files path else none with
          | some location => .resource location
          | none =>
              match server.entry? path method with
              | some (service, rest, run) => .entry service rest method run
              | none => .unmatched

end Server

end WebHost
