/-
Module: WebHost.Session.Loop
Purpose: The life of one session, from its registration to its last callback.
Main exports:
  World, SessionEvent, SessionAct, openSession, SessionEvent.step, closeSession,
  runSession
-/
import WebHost.Session.Registry

namespace WebHost

/-!
A session is registered and its handler told; then it takes events until one of
them ends it; then it is removed from the registry and its handler told again.
A frame from the client goes to the handler, which may refuse it.  At every
tick the handler may hand out a frame, which the session sends.  The session
itself sends a close frame only when the handler refused a frame or the server
stops, and nothing after that.

What happens is written down as acts, in order: the calls of the handler and
what was sent.
-/

/-- What all sessions share: the state of the application, the open sessions,
the counts and the number that the next session gets. -/
structure World (σ : Type) where
  app : σ
  registry : Registry
  metrics : Metrics
  nextSession : SessionId
deriving Repr, Inhabited

/-- The world before anything has happened. -/
def World.initial {σ : Type} (app : σ) : World σ :=
  { app := app
    registry := .empty
    metrics := .empty
    nextSession := 1 }

/-- What can happen to an open session.  A tick says whether a frame sent at it
would get out. -/
inductive SessionEvent where
  | text (text : String)
  | binary (content : List UInt8)
  | ping
  | pong
  | peerClosed
  | receiveFailed
  | streamEnded
  | tick (sendable : Bool)
  | stopped
deriving Repr, Inhabited, DecidableEq

/-- What a session does. -/
inductive SessionAct where
  | opened
  | read (frame : Frame) (accepted : Bool)
  | polled (frame : Option Frame)
  | sent (frame : Frame) (delivered : Bool)
  | sentClose
  | closed
deriving Repr, Inhabited, DecidableEq

/-- The frame that an event brings. -/
def SessionEvent.frame? : SessionEvent → Option Frame
  | .text value => some (.text value)
  | .binary content => some (.binary content)
  | _ => none

variable {σ : Type}

/-- Register a session and tell its handler. -/
def openSession (handler : Handler σ) (info : SessionInfo) (world : World σ) : World σ :=
  let (registry, metrics) := world.registry.insert world.metrics info
  { world with
    app := handler.onOpen info world.app
    registry := registry
    metrics := metrics }

/-- Remove a session from the registry and tell its handler. -/
def closeSession (handler : Handler σ) (info : SessionInfo) (world : World σ) : World σ :=
  let (_, registry, metrics) := world.registry.remove world.metrics info.id
  { world with
    app := handler.onClose info world.app
    registry := registry
    metrics := metrics }

/-- The result of an event: the acts, whether the session goes on, and what
became of the world. -/
structure Turn (σ : Type) where
  acts : List SessionAct
  goesOn : Bool
  world : World σ

/-- A frame from the client. -/
def readFrame (handler : Handler σ) (info : SessionInfo) (frame : Frame) (world : World σ) :
    Turn σ :=
  let metrics := world.metrics.recordFrame .inward
  let (accepted, app) := handler.onRead info frame world.app
  { acts := .read frame accepted :: (if accepted then [] else [.sentClose])
    goesOn := accepted
    world := { world with app := app, metrics := metrics } }

/-- A tick: the handler may hand out a frame. -/
def pollFrame (handler : Handler σ) (info : SessionInfo) (sendable : Bool) (world : World σ) :
    Turn σ :=
  let (frame, app) := handler.onWrite info world.app
  match frame with
  | none =>
      { acts := [.polled none]
        goesOn := true
        world := { world with app := app } }
  | some frame =>
      let metrics := if sendable then world.metrics.recordFrame .outward else world.metrics
      { acts := [.polled (some frame), .sent frame sendable]
        goesOn := sendable
        world := { world with app := app, metrics := metrics } }

/-- What an event does to an open session. -/
def SessionEvent.step (handler : Handler σ) (info : SessionInfo) (event : SessionEvent)
    (world : World σ) : Turn σ :=
  match event with
  | .text value => readFrame handler info (.text value) world
  | .binary content => readFrame handler info (.binary content) world
  | .ping | .pong => { acts := [], goesOn := true, world := world }
  | .peerClosed | .receiveFailed | .streamEnded =>
      { acts := [], goesOn := false, world := world }
  | .tick sendable => pollFrame handler info sendable world
  | .stopped => { acts := [.sentClose], goesOn := false, world := world }

/-- Take events until one of them ends the session, if one does. -/
def takeEvents (handler : Handler σ) (info : SessionInfo) :
    List SessionEvent → World σ → Turn σ
  | [], world => { acts := [], goesOn := true, world := world }
  | event :: rest, world =>
      let turn := event.step handler info world
      if turn.goesOn then
        let later := takeEvents handler info rest turn.world
        { later with acts := turn.acts ++ later.acts }
      else
        turn

/-- The life of a session over some events.  It is closed if one of them ends
it, and else still open. -/
def runSession (handler : Handler σ) (info : SessionInfo) (events : List SessionEvent)
    (world : World σ) : Turn σ :=
  let turn := takeEvents handler info events (openSession handler info world)
  if turn.goesOn then
    { turn with acts := .opened :: turn.acts }
  else
    { acts := .opened :: (turn.acts ++ [.closed])
      goesOn := false
      world := closeSession handler info turn.world }

end WebHost
