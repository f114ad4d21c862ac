/-
Module: WebHost.Session.Registry
Purpose: The open sessions and the gauge that counts them.
Main exports:
  Registry, Registry.insert, Registry.remove, Registry.size, Registry.countProtocol
-/
import WebHost.Metrics
import WebHost.Session.Basic

namespace WebHost

/-!
The registry holds the open sessions by number.  Inserting a session moves the
gauge of its protocol up, removing one moves the gauge of its protocol down;
removing a number that is not there moves nothing.
-/

/-- The open sessions, at most one for a number. -/
structure Registry where
  sessions : List (SessionId × SessionInfo)
deriving Repr, Inhabited, DecidableEq

namespace Registry

def empty : Registry := { sessions := [] }

/-- The session with this number. -/
def get? (registry : Registry) (id : SessionId) : Option SessionInfo :=
  registry.sessions.lookup id

/-- Add a session, in the place of one with its number. -/
def insert (registry : Registry) (metrics : Metrics) (info : SessionInfo) :
    Registry × Metrics :=
  ({ sessions := registry.sessions.filter (·.1 ≠ info.id) ++ [(info.id, info)] },
    metrics.sessionOpened info.protocol)

/-- Take out the session with a number. -/
def remove (registry : Registry) (metrics : Metrics) (id : SessionId) :
    Option SessionInfo × Registry × Metrics :=
  match registry.get? id with
  | some info =>
      (some info, { sessions := registry.sessions.filter (·.1 ≠ id) },
        metrics.sessionClosed info.protocol)
  | none => (none, registry, metrics)

/-- The number of open sessions. -/
def size (registry : Registry) : Nat := registry.sessions.length

def isEmpty (registry : Registry) : Bool := registry.sessions.isEmpty

/-- The number of open sessions that speak a protocol. -/
def countProtocol (registry : Registry) (protocol : String) : Nat :=
  (registry.sessions.filter (·.2.protocol = protocol)).length

end Registry

end WebHost
