/-
Module: WebHost.Server.Upgrade
Purpose: Requests for an upgrade to WebSocket.
Main exports:
  HandshakeFault, checkHandshake, Upgrade, Server.upgrade
-/
import WebHost.Digest.Sha1
import WebHost.Protocol.Name
import WebHost.Server.Answer

namespace WebHost

open Text

/-!
First the protocol is chosen; without a choice the request is refused, whatever
else it says.  Then the rest of the handshake is checked.  An accepted request
starts a session; the chosen protocol is announced only to a client that
offered one.
-/

/-- What a handshake lacks, in the order in which that is looked for. -/
inductive HandshakeFault where
  | methodNotGet
  | connectionHeader
  | upgradeHeader
  | versionHeader
  | keyMissing
  | notUpgradable
deriving Repr, Inhabited, DecidableEq

def HandshakeFault.status : HandshakeFault → Status
  | .methodNotGet => .methodNotAllowed
  | .notUpgradable => .upgradeRequired
  | _ => .badRequest

def HandshakeFault.message : HandshakeFault → String
  | .methodNotGet => "Request method must be `GET`"
  | .connectionHeader => "Connection header did not include 'upgrade'"
  | .upgradeHeader => "`Upgrade` header did not include 'websocket'"
  | .versionHeader => "`Sec-WebSocket-Version` header did not include '13'"
  | .keyMissing => "`Sec-WebSocket-Key` header missing"
  | .notUpgradable => "WebSocket request couldn't be upgraded since no upgrade state was present"

/-- A run of characters occurs in another. -/
def occursIn (part : List Char) (characters : List Char) : Bool :=
  (cutAtText part characters).isSome

/-- The first value of a name is text that contains a word in any letter case. -/
def fieldContains (fields : Fields) (name : FieldName) (word : String) : Bool :=
  match (fields.get? name).bind fun value => decode? value.bytes with
  | some text => occursIn word.toList (text.toList.map Char.toLower)
  | none => false

/-- The first value of a name is a word in any letter case. -/
def fieldEquals (fields : Fields) (name : FieldName) (word : String) : Bool :=
  match (fields.get? name).bind fun value => decode? value.bytes with
  | some text => equalFold text word
  | none => false

/-- The key of a well-formed handshake on a connection that can be upgraded. -/
def checkHandshake (incoming : Incoming) : Except HandshakeFault FieldValue :=
  if incoming.method ≠ Method.get.name then .error .methodNotGet
  else if !fieldContains incoming.fields .connection "upgrade" then .error .connectionHeader
  else if !fieldEquals incoming.fields .upgrade "websocket" then .error .upgradeHeader
  else if !fieldEquals incoming.fields .socketVersion "13" then .error .versionHeader
  else
    match incoming.fields.get? .socketKey with
    | none => .error .keyMissing
    | some key => if incoming.upgradable then .ok key else .error .notUpgradable

/-- The outcome of a request for an upgrade. -/
inductive Upgrade (σ : Type) where
  | rejected (reply : Reply)
  | accepted (reply : Reply) (protocol : String) (handler : Handler σ)

/-- The reply that accepts a handshake. -/
def acceptReply (key : FieldValue) (protocol : String) (offered : Bool) : Reply :=
  let fields :=
    ((Fields.empty.setValue .connection "upgrade").setValue .upgrade "websocket").setValue
      .socketAccept (acceptKey key.bytes)
  { status := .switchingProtocols
    fields := if offered then fields.setValue .socketProtocol protocol else fields
    body := [] }

/-- Decide on a request for an upgrade. -/
def Server.upgrade {σ : Type} (server : Server σ) (incoming : Incoming) : Upgrade σ :=
  let offers := offeredProtocols incoming.fields
  let chosen := do
    let protocol ← server.protocols.negotiate offers server.config.websocket.defaultProtocol
    let handler ← server.protocols.get? protocol
    some (protocol, handler)
  match chosen with
  | none => .rejected (plainReply .badRequest "No supported WebSocket protocol")
  | some (protocol, handler) =>
      match checkHandshake incoming with
      | .error fault => .rejected (plainReply fault.status fault.message)
      | .ok key => .accepted (acceptReply key protocol (offers ≠ [])) protocol handler

end WebHost
