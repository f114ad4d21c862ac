/-
Module: WebHost.Server.Basic
Purpose: A server and what is registered with it before it starts.
Main exports:
  Server, Server.ofConfig, Server.addService, Server.addProtocol, Server.addResourceName,
  Server.removeResourceName, Server.addType, pollInterval?
-/
import WebHost.Config.Schema
import WebHost.Files.Resource
import WebHost.Protocol.Table
import WebHost.Service
import WebHost.Session.Basic

namespace WebHost

open Number

/-!
A server has its configuration, at most one service for a name, a handler for
each protocol, the fallback names of static resources and a table of content
types.  Services and handlers share the state of the application, of type `σ`.
-/

/-- A server. -/
structure Server (σ : Type) where
  config : Config
  services : List (Service σ)
  protocols : ProtocolTable (Handler σ)
  resourceNames : NameSet
  types : MimeTable

namespace Server

variable {σ : Type}

/-- The server of a configuration, with nothing registered. -/
def ofConfig (config : Config) : Server σ :=
  { config := config
    services := []
    protocols := .empty
    resourceNames := .ofList config.http.resourceNames
    types := .standard }

/-- The service with this name. -/
def service? (server : Server σ) (name : String) : Option (Service σ) :=
  server.services.find? fun service => service.name == name

/-- Mount a service under its name, in the place of the one mounted there,
which is returned. -/
def addService (server : Server σ) (service : Service σ) : Option (Service σ) × Server σ :=
  (server.service? service.name,
    { server with
      services := server.services.filter (fun other => other.name != service.name) ++ [service] })

/-- Register the handler of a protocol. -/
def addProtocol (server : Server σ) (name : String) (handler : Handler σ) : Server σ :=
  { server with protocols := server.protocols.add name handler }

/-- Add a fallback name; the flag tells whether it is new. -/
def addResourceName (server : Server σ) (name : String) : Bool × Server σ :=
  (!server.resourceNames.contains name,
    { server with resourceNames := server.resourceNames.insert name })

/-- Remove a fallback name; the flag tells whether it was there. -/
def removeResourceName (server : Server σ) (name : String) : Bool × Server σ :=
  (server.resourceNames.contains name,
    { server with resourceNames := server.resourceNames.erase name })

/-- Give an extension a content type. -/
def addType (server : Server σ) (extension contentType : String) : Server σ :=
  { server with types := server.types.add extension contentType }

end Server

/-- The rate at which handlers are polled: the configured one, at most 1000 per
second, or the default if that is no positive number. -/
def pollRate (frequency : Binary) : Binary :=
  if frequency.isFinite && frequency.isPositive then
    if frequency.lessEqual (Binary.ofNat 1000) then frequency else Binary.ofNat 1000
  else
    defaultPollFrequency

/-- A number of seconds as nanoseconds, rounded; none if it is negative, no
number, or 2^64 seconds and more, which no clock counts. -/
def nanoseconds? (seconds : Binary) : Option Nat :=
  match seconds with
  | .finite negative significand exponent =>
      let (numerator, denominator) := Binary.ratio significand exponent
      if (negative ∧ significand ≠ 0) ∨ wordBound * denominator ≤ numerator then none
      else some (Binary.roundEven (numerator * 1000000000) denominator)
  | _ => none

/-- The time between two polls of a handler, in nanoseconds. -/
def pollInterval? (frequency : Binary) : Option Nat :=
  nanoseconds? ((Binary.ofNat 1).divide (pollRate frequency))

end WebHost
