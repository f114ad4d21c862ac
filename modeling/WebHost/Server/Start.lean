/-
Module: WebHost.Server.Start
Purpose: From a configured server to one that listens.
Main exports:
  StartError, StartError.message?, Listening, Server.start, isLocalAddress
-/
import WebHost.Server.Router
import WebHost.Tls.Identity

namespace WebHost

/-!
A server starts by reading its address, then the identity it shows over TLS,
and then takes the address.  Whether an address can be taken is up to the host.
-/

/-- Why a server does not start. -/
inductive StartError where
  | invalidAddress (address : String)
  | identity (reason : IdentityError)
  | addressUnavailable
  | pollTimeTooLong
deriving Repr, Inhabited, DecidableEq

/-- The message of an error, where this library words it. -/
def StartError.message? : StartError → Option String
  | .invalidAddress address => some ("invalid bind address '" ++ address ++ "'")
  | .identity reason => reason.message?.map ("TLS setup failed: " ++ ·)
  | _ => none

/-- A server that listens. -/
structure Listening (σ : Type) where
  address : SocketAddress
  identity : Option Identity
  router : Router σ

/-- The address is one that every host has: any of its own, or one that only
itself can reach. -/
def isLocalAddress (address : SocketAddress) : Bool :=
  match address.ip with
  | .four octets => octets.head? = some 127 || octets.all (· == 0)
  | .six groups => groups.take 7 = [0, 0, 0, 0, 0, 0, 0] && groups.drop 7 ∈ [[0], [1]]

namespace Server

variable {σ : Type}

/-- The identity that the configuration asks for. -/
def identity? (server : Server σ) (files : FileSystem) : Except StartError (Option Identity) :=
  match server.config.listener.tls with
  | none => .ok none
  | some names =>
      ((loadIdentity files names.certificate names.key).mapError StartError.identity).map some

/-- The started router. -/
def router (server : Server σ) : Except StartError (Router σ) :=
  match Router.ofServer? server with
  | some router => .ok router
  | none => .error .pollTimeTooLong

/-- Listen on the configured address, which must be `available`. -/
def start (server : Server σ) (files : FileSystem) (available : SocketAddress → Bool) :
    Except StartError (Listening σ) :=
  match SocketAddress.parse? server.config.listener.bindAddress with
  | none => .error (.invalidAddress server.config.listener.bindAddress)
  | some address => do
      let identity ← server.identity? files
      match identity with
      | some _ =>
          let router ← server.router
          if available address then
            return { address := address, identity := identity, router := router }
          else
            throw .addressUnavailable
      | none =>
          if available address then
            return { address := address, identity := none, router := ← server.router }
          else
            throw .addressUnavailable

end Server

end WebHost
