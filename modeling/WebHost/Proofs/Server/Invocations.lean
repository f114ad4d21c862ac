/-
Module: WebHost.Proofs.Server.Invocations
Purpose: Which application code a request or a session runs, and how often.
Main exports:
  Invocation, Server.logged, Server.invocations, Server.answer_logged,
  Router.invocations, Router.respond_logged, runSession_logged
-/
import WebHost.Server.Router

namespace WebHost

/-!
The library never looks into the state of the application.  So it can be served
with a log beside it, to which every entry point and every callback adds one
line when it is called.  The server with the log gives the same answers and
leaves the same state, and what it adds to the log is exactly what was called.
-/

/-- A call of application code. -/
inductive Invocation where
  | entry (service path : String) (request : Request)
  | opened (info : SessionInfo)
  | read (info : SessionInfo) (frame : Frame)
  | polled (info : SessionInfo)
  | closed (info : SessionInfo)
deriving Repr, DecidableEq

variable {σ : Type}

/-! ### Servers that log their calls -/

/-- The entry point that notes each of its calls. -/
def logEntry (service path : String) (run : EntryPoint σ) : EntryPoint (σ × List Invocation) :=
  fun request response state =>
    ((run request response state.1).1, (run request response state.1).2,
      state.2 ++ [.entry service path request])

/-- The service whose entry points note their calls. -/
def Service.logged (service : Service σ) : Service (σ × List Invocation) :=
  { name := service.name
    entries := service.entries.map fun entry =>
      (entry.1, logEntry service.name entry.1.2 entry.2) }

/-- The handler whose callbacks note their calls. -/
def Handler.logged (handler : Handler σ) : Handler (σ × List Invocation) :=
  { onOpen := fun info state => (handler.onOpen info state.1, state.2 ++ [.opened info])
    onRead := fun info frame state =>
      ((handler.onRead info frame state.1).1, (handler.onRead info frame state.1).2,
        state.2 ++ [.read info frame])
    onWrite := fun info state =>
      ((handler.onWrite info state.1).1, (handler.onWrite info state.1).2,
        state.2 ++ [.polled info])
    onClose := fun info state => (handler.onClose info state.1, state.2 ++ [.closed info]) }

/-- The table whose handlers note their calls. -/
def ProtocolTable.logged (table : ProtocolTable (Handler σ)) :
    ProtocolTable (Handler (σ × List Invocation)) :=
  { entries := table.entries.map fun entry => (entry.1, entry.2.logged) }

/-- The server all of whose application code notes its calls. -/
def Server.logged (server : Server σ) : Server (σ × List Invocation) :=
  { config := server.config
    services := server.services.map Service.logged
    protocols := server.protocols.logged
    resourceNames := server.resourceNames
    types := server.types }

/-- The started server all of whose application code notes its calls. -/
def Router.logged (router : Router σ) : Router (σ × List Invocation) :=
  { server := router.server.logged
    pollInterval := router.pollInterval
    serverName := router.serverName
    charset := router.charset }

/-- A world with the log of the calls made so far. -/
def World.logged (world : World σ) (log : List Invocation) : World (σ × List Invocation) :=
  { app := (world.app, log)
    registry := world.registry
    metrics := world.metrics
    nextSession := world.nextSession }

/-- A route to application code that notes its calls. -/
def Route.logged : Route σ → Route (σ × List Invocation)
  | .methodNotAllowed => .methodNotAllowed
  | .undecodable => .undecodable
  | .resource location => .resource location
  | .entry service path method run => .entry service path method (logEntry service path run)
  | .unmatched => .unmatched

/-! ### Calls of entry points -/

/-- The calls that a request without an upgrade leads to. -/
def Server.invocations (server : Server σ) (files : FileSystem) (incoming : Incoming) :
    List Invocation :=
  match server.route files incoming with
  | .entry service path method _ =>
      match readContent server.config.limits.maxBodySize method incoming with
      | .ok content => [.entry service path (entryRequest method incoming content)]
      | .error _ => []
  | _ => []

theorem Service.lookup?_logged (service : Service σ) (path : String) (method : Method) :
    service.logged.lookup? path method =
      (service.lookup? path method).map (logEntry service.name path) := by
  unfold lookup? logged
  induction service.entries with
  | nil => rfl
  | cons entry rest ih =>
      obtain ⟨key, run⟩ := entry
      by_cases same : (method, path) = key
      · subst same
        simp
      · have apart : ((method, path) == key) = false := beq_false_of_ne same
        simp only [List.map_cons, List.lookup_cons, apart, ih]

theorem Server.service?_logged (server : Server σ) (name : String) :
    server.logged.service? name = (server.service? name).map Service.logged := by
  unfold service? logged
  induction server.services with
  | nil => rfl
  | cons service rest ih =>
      by_cases same : service.name = name
      · simp [Service.logged, same]
      · have apart : (service.name == name) = false := beq_false_of_ne same
        simpa [Service.logged, apart] using ih

theorem Server.name_of_service? {server : Server σ} {name : String} {service : Service σ}
    (found : server.service? name = some service) : service.name = name := by
  simpa using List.find?_some found

theorem Server.entry?_logged (server : Server σ) (path : String) (method : Method) :
    server.logged.entry? path method =
      (server.entry? path method).map fun found =>
        (found.1, found.2.1, logEntry found.1 found.2.1 found.2.2) := by
  unfold entry?
  cases splitServicePath path with
  | none => rfl
  | some parts =>
      obtain ⟨name, rest⟩ := parts
      simp only [bind, Option.bind, Server.service?_logged]
      cases mounted : server.service? name with
      | none => rfl
      | some service =>
          simp only [Option.map_some, Service.lookup?_logged, name_of_service? mounted]
          cases service.lookup? rest method <;> rfl

theorem Server.route_logged (server : Server σ) (files : FileSystem) (incoming : Incoming) :
    server.logged.route files incoming = (server.route files incoming).logged := by
  unfold route
  cases Method.ofToken? incoming.method with
  | none => rfl
  | some method =>
      cases percentDecodeText? incoming.target.path with
      | none => rfl
      | some path =>
          have sameFile : server.logged.resource? files path = server.resource? files path := rfl
          simp only [sameFile, Server.entry?_logged]
          cases (if method = .get then server.resource? files path else none) with
          | some location => rfl
          | none => cases server.entry? path method <;> rfl

/-- The answer is the same with a log, which gets the calls that were made. -/
theorem Server.answer_logged (server : Server σ) (files : FileSystem) (incoming : Incoming)
    (state : σ) (log : List Invocation) :
    server.logged.answer files incoming (state, log) =
      ((server.answer files incoming state).1, (server.answer files incoming state).2.1,
        (server.answer files incoming state).2.2, log ++ server.invocations files incoming) := by
  have samePage : server.logged.answerUnmatched files = server.answerUnmatched files := rfl
  have sameFile : ∀ location,
      server.logged.answerResource files location = server.answerResource files location :=
    fun _ => rfl
  unfold answer invocations
  rw [route_logged]
  cases server.route files incoming with
  | entry service path method run =>
      have sameLimit : server.logged.config = server.config := rfl
      simp only [Route.logged, answerEntry, sameLimit]
      cases readContent server.config.limits.maxBodySize method incoming with
      | error fault => simp
      | ok content => rfl
  | methodNotAllowed => simp [Route.logged]
  | undecodable => simp [Route.logged, samePage]
  | resource location => simp [Route.logged, sameFile]
  | unmatched => simp [Route.logged, samePage]

/-! ### Calls of callbacks -/

/-- An accepted handshake whose handler notes its calls. -/
def Upgrade.logged : Upgrade σ → Upgrade (σ × List Invocation)
  | .rejected reply => .rejected reply
  | .accepted reply protocol handler => .accepted reply protocol handler.logged

theorem ProtocolTable.get?_logged (table : ProtocolTable (Handler σ)) (name : String) :
    table.logged.get? name = (table.get? name).map Handler.logged := by
  unfold get? logged
  induction table.entries with
  | nil => rfl
  | cons entry rest ih =>
      obtain ⟨first, handler⟩ := entry
      by_cases same : name = first
      · subst same
        simp
      · have apart : (name == first) = false := beq_false_of_ne same
        simp only [List.map_cons, List.lookup_cons, apart, ih]

theorem ProtocolTable.negotiate_logged (table : ProtocolTable (Handler σ)) (offers : List String)
    (default : Option String) : table.logged.negotiate offers default =
      table.negotiate offers default := by
  have sameNames : table.logged.knows = table.knows := by
    funext name
    simp [knows, get?_logged]
  simp only [negotiate, sameNames]

theorem Server.upgrade_logged (server : Server σ) (incoming : Incoming) :
    server.logged.upgrade incoming = (server.upgrade incoming).logged := by
  have sameTable : server.logged.protocols = server.protocols.logged := rfl
  have sameConfig : server.logged.config = server.config := rfl
  unfold upgrade
  simp only [sameTable, sameConfig, ProtocolTable.negotiate_logged, ProtocolTable.get?_logged]
  cases server.protocols.negotiate (offeredProtocols incoming.fields)
      server.config.websocket.defaultProtocol with
  | none => rfl
  | some protocol =>
      simp only [bind, Option.bind]
      cases server.protocols.get? protocol with
      | none => rfl
      | some handler =>
          simp only [Option.map_some]
          cases checkHandshake incoming <;> rfl

/-- The calls that a request leads to before it is answered. -/
def Router.invocations (router : Router σ) (files : FileSystem) (incoming : Incoming)
    (world : World σ) : List Invocation :=
  if isUpgradeRequest incoming.fields then
    match router.server.upgrade incoming with
    | .rejected _ => []
    | .accepted _ protocol _ =>
        [.opened { id := world.nextSession, protocol := protocol, peer := incoming.peer }]
  else
    router.server.invocations files incoming

/-- A started server gives the same answer and leaves the same world with a log,
which gets the calls that were made. -/
theorem Router.respond_logged (router : Router σ) (files : FileSystem) (incoming : Incoming)
    (fresh : FieldValue) (world : World σ) (log : List Invocation) :
    router.logged.respond files incoming fresh (world.logged log) =
      ((router.respond files incoming fresh world).1,
        (router.respond files incoming fresh world).2.logged
          (log ++ router.invocations files incoming world)) := by
  have sameServer : router.logged.server = router.server.logged := rfl
  have sameFinish : ∀ reply, router.logged.finish incoming fresh reply =
      router.finish incoming fresh reply := fun _ => rfl
  unfold respond dispatch invocations
  rw [sameServer, Server.upgrade_logged]
  by_cases upgrades : isUpgradeRequest incoming.fields = true
  · simp only [upgrades, if_true]
    cases router.server.upgrade incoming with
    | rejected reply => simp [Upgrade.logged, World.logged, sameFinish]
    | accepted reply protocol handler => rfl
  · have sameApp : (world.logged log).app = (world.app, log) := rfl
    simp only [upgrades, if_false, Bool.false_eq_true, sameApp, Server.answer_logged]
    rfl

/-! ### Calls of a session -/

/-- The call that an act is, if it is one. -/
def SessionAct.invocation? (info : SessionInfo) : SessionAct → Option Invocation
  | .opened => some (.opened info)
  | .read frame _ => some (.read info frame)
  | .polled _ => some (.polled info)
  | .sent _ _ => none
  | .sentClose => none
  | .closed => some (.closed info)

/-- A turn whose calls are noted in a log. -/
def Turn.logged (info : SessionInfo) (turn : Turn σ) (log : List Invocation) :
    Turn (σ × List Invocation) :=
  { acts := turn.acts
    goesOn := turn.goesOn
    world := turn.world.logged (log ++ turn.acts.filterMap (SessionAct.invocation? info)) }

section Sessions

variable (handler : Handler σ) (info : SessionInfo)

theorem openSession_logged (world : World σ) (log : List Invocation) :
    openSession handler.logged info (world.logged log) =
      (openSession handler info world).logged (log ++ [.opened info]) := rfl

theorem closeSession_logged (world : World σ) (log : List Invocation) :
    closeSession handler.logged info (world.logged log) =
      (closeSession handler info world).logged (log ++ [.closed info]) := rfl

theorem readFrame_logged (frame : Frame) (world : World σ) (log : List Invocation) :
    readFrame handler.logged info frame (world.logged log) =
      (readFrame handler info frame world).logged info log := by
  cases accepted : (handler.onRead info frame world.app).1 <;>
    simp [readFrame, Turn.logged, Handler.logged, World.logged, SessionAct.invocation?, accepted]

theorem pollFrame_logged (sendable : Bool) (world : World σ) (log : List Invocation) :
    pollFrame handler.logged info sendable (world.logged log) =
      (pollFrame handler info sendable world).logged info log := by
  cases handed : (handler.onWrite info world.app).1 with
  | none =>
      simp [pollFrame, Turn.logged, Handler.logged, World.logged, SessionAct.invocation?, handed]
  | some frame =>
      simp [pollFrame, Turn.logged, Handler.logged, World.logged, SessionAct.invocation?, handed]

theorem SessionEvent.step_logged (event : SessionEvent) (world : World σ)
    (log : List Invocation) :
    event.step handler.logged info (world.logged log) =
      (event.step handler info world).logged info log := by
  have silent : ∀ acts goesOn, acts.filterMap (SessionAct.invocation? info) = [] →
      ({ acts := acts, goesOn := goesOn, world := world.logged log } :
        Turn (σ × List Invocation)) =
        Turn.logged info { acts := acts, goesOn := goesOn, world := world } log := by
    intro acts goesOn silent
    simp [Turn.logged, silent]
  cases event with
  | text value => exact readFrame_logged handler info (.text value) world log
  | binary content => exact readFrame_logged handler info (.binary content) world log
  | ping => exact silent _ _ rfl
  | pong => exact silent _ _ rfl
  | peerClosed => exact silent _ _ rfl
  | receiveFailed => exact silent _ _ rfl
  | streamEnded => exact silent _ _ rfl
  | tick sendable => exact pollFrame_logged handler info sendable world log
  | stopped => exact silent _ _ rfl

theorem takeEvents_logged (events : List SessionEvent) (world : World σ)
    (log : List Invocation) :
    takeEvents handler.logged info events (world.logged log) =
      (takeEvents handler info events world).logged info log := by
  induction events generalizing world log with
  | nil => simp [takeEvents, Turn.logged]
  | cons event rest ih =>
      unfold takeEvents
      rw [SessionEvent.step_logged]
      cases goesOn : (event.step handler info world).goesOn with
      | false => simp [Turn.logged, goesOn]
      | true => simp [Turn.logged, goesOn, ih]

/-- The acts of a session show the calls of its handler: a handler that notes
its calls notes these and no others. -/
theorem runSession_logged (events : List SessionEvent) (world : World σ)
    (log : List Invocation) :
    runSession handler.logged info events (world.logged log) =
      (runSession handler info events world).logged info log := by
  unfold runSession
  rw [openSession_logged, takeEvents_logged]
  cases goesOn : (takeEvents handler info events (openSession handler info world)).goesOn with
  | true => simp [Turn.logged, goesOn, SessionAct.invocation?]
  | false => simp [Turn.logged, goesOn, closeSession_logged, SessionAct.invocation?]

end Sessions

end WebHost
