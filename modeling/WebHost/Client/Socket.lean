/-
Module: WebHost.Client.Socket
Purpose: The client's side of a WebSocket handshake.
Main exports:
  isOfferable, socketHandshake, verifyHandshake, connectSocket, SocketNetwork, unreachableSocket
-/
import WebHost.Client.Options
import WebHost.Digest.Sha1
import WebHost.Protocol.Name
import WebHost.Server.Route

namespace WebHost

open Text

/-!
A client opens a session by a request that offers protocols in the order of its
preference, each a name of ASCII without blanks.  It accepts the reply only if
that proves that the request was read and names an offered protocol exactly if
any was offered.
-/

/-- A name that a client offers: ASCII, not empty and without blanks. -/
def isOfferable (name : String) : Bool :=
  name ≠ "" && name.toList.all fun character => character.toNat < 128 && !isBlank character

/-- The authority without the user that it may name. -/
def hostOf (authority : String) : String :=
  match cutAt '@' authority.toList with
  | some (_, host) => String.ofList host
  | none => authority

/-- The request that opens a session, if the address has a host and the offers
make a legal header. -/
def socketHandshake (address : String) (offers : List String) (key : FieldValue) :
    Except ClientError Incoming :=
  match Target.parse? address with
  | none => .error .socket
  | some target =>
      match target.authority with
      | none => .error .socket
      | some authority =>
          let host := Fields.empty.setText "host" (hostOf authority)
          let fields :=
            (((host.setValue .connection "Upgrade").setValue .upgrade "websocket").setValue
              .socketVersion "13").set .socketKey key
          let request := fun (fields : Fields) =>
            { method := "GET"
              target := { target with authority := none }
              fields := fields
              body := some []
              peer := none
              upgradable := true : Incoming }
          if offers = [] then .ok (request fields)
          else
            match FieldValue.ofText? (offerText offers) with
            | some value =>
                if offers.all isOfferable then .ok (request (fields.set .socketProtocol value))
                else .error .socket
            | none => .error (.invalidHeader (offerText offers))

/-- The protocol that an accepted handshake names. -/
def verifyHandshake (offers : List String) (key : FieldValue) (reply : Reply) :
    Except ClientError (Option String) :=
  if reply.status ≠ .switchingProtocols ∨
      reply.fields.text? .socketAccept ≠ some (acceptKey key.bytes) then .error .socket
  else
    match reply.fields.get? .socketProtocol with
    | none => if offers = [] then .ok none else .error .socket
    | some value =>
        match value.text? with
        | some name => if offers.contains name then .ok (some name) else .error .socket
        | none => .error .socket

/-- What becomes of a handshake: the reply to it, if one comes. -/
abbrev SocketNetwork := Incoming → Option Reply

/-- The network on which nobody can be reached. -/
def unreachableSocket : SocketNetwork := fun _ => none

/-- Open a session: the protocol that was chosen, if one was named. -/
def connectSocket (network : SocketNetwork) (address : String) (offers : List String)
    (key : FieldValue) : Except ClientError (Option String) := do
  let request ← socketHandshake address offers key
  if !(address.startsWith "ws://" || address.startsWith "wss://") then throw .socket
  else
    match network request with
    | none => throw .socket
    | some reply => verifyHandshake offers key reply

end WebHost
