/-
Module: WebHost.Proofs.Server.Traffic
Purpose: A server in use: the requests it answers and the sessions they start.
Main exports:
  ServiceTag, Router.tag, tag_eq_static_iff, tag_eq_service_iff, tag_eq_none_iff, Router.serve,
  dispatch_world, Exchange, Router.environment, Incoming.forProtocol
-/
import WebHost.Proofs.Files.Containment
import WebHost.Proofs.Session.System
import WebHost.Server.Router

namespace WebHost

/-!
A request is answered and counted in one step, under what has answered it.  A
request that starts a session leaves it to begin: between the answer and the
registration of the session the rest of the server goes on.  So the world that a
dispatch computes in one go is reached by the answer and then the first moves of
the session, and a server in use is a system of sessions around which requests
are answered.
-/

variable {σ : Type}

/-! ### What a request is counted under -/

/-- What has answered a request. -/
inductive ServiceTag where
  | websocket
  | static
  | service (name : String)
  | none
deriving Repr, DecidableEq

/-- The name of the service that a request is counted under. -/
def ServiceTag.text : ServiceTag → String
  | .websocket => "websocket"
  | .static => "static"
  | .service name => name
  | .none => "none"

def Route.tag : Route σ → ServiceTag
  | .resource _ => .static
  | .entry service _ _ _ => .service service
  | .methodNotAllowed => .none
  | .undecodable => .none
  | .unmatched => .none

/-- A request has been answered by its upgrade or by the part that it was routed
to. -/
def Router.tag (router : Router σ) (files : FileSystem) (incoming : Incoming) : ServiceTag :=
  if isUpgradeRequest incoming.fields then .websocket
  else (router.server.route files incoming).tag

/-- The path of a GET resolves to a file below the root. -/
def FileResolves (server : Server σ) (files : FileSystem) (incoming : Incoming) : Prop :=
  ∃ root path location, incoming.method = "GET" ∧
    percentDecodeText? incoming.target.path = some path ∧
    server.config.http.rootDirectory = some root ∧
    resolve? files root path server.resourceNames.names = some location

/-- No file is in the way, and a service has an entry point for the method and
the path of the request. -/
def EntryFound (server : Server σ) (files : FileSystem) (incoming : Incoming) (name : String) :
    Prop :=
  ¬ FileResolves server files incoming ∧
    ∃ method path rest mounted, ∃ run : EntryPoint σ, incoming.method = Method.name method ∧
      percentDecodeText? incoming.target.path = some path ∧
      splitServicePath path = some (name, rest) ∧
      server.service? name = some mounted ∧ mounted.lookup? rest method = some run

section Tags

variable {server : Server σ} {files : FileSystem} {incoming : Incoming}

theorem fileResolves_iff : FileResolves server files incoming ↔
    ∃ location, server.route files incoming = .resource location := by
  constructor
  · rintro ⟨root, path, location, served, decoded, rooted, resolved⟩
    have found : server.resource? files path = some location := by
      rw [Server.resource?, rooted, Option.bind_some, resolved]
    exact ⟨location, route_of_routed (.resource path location served decoded found)⟩
  · rintro ⟨location, routed⟩
    obtain ⟨served, root, path, rooted, decoded, resolved⟩ := route_eq_resource routed
    exact ⟨root, path, location, served, decoded, rooted, resolved⟩

theorem noFile_of_not_fileResolves (noFile : ¬ FileResolves server files incoming)
    {method : Method} (served : incoming.method = method.name) {path : String}
    (decoded : percentDecodeText? incoming.target.path = some path) (get : method = .get) :
    server.resource? files path = none := by
  cases found : server.resource? files path with
  | none => rfl
  | some location =>
      subst get
      exact absurd (fileResolves_iff.2
        ⟨location, route_of_routed (.resource path location served decoded found)⟩) noFile

theorem entryFound_iff {name : String} : EntryFound server files incoming name ↔
    ∃ rest method run, server.route files incoming = .entry name rest method run := by
  constructor
  · rintro ⟨noFile, method, path, rest, mounted, run, served, decoded, split, registered, found⟩
    exact ⟨rest, method, run, route_of_routed (.entry method path name rest run served decoded
      (noFile_of_not_fileResolves noFile served decoded)
      (entry?_eq_some_iff_split.2 ⟨split, mounted, registered, found⟩))⟩
  · rintro ⟨rest, method, run, routed⟩
    have noFile : ¬ FileResolves server files incoming := by
      rw [fileResolves_iff, routed]
      rintro ⟨location, same⟩
      cases same
    cases route_eq_iff_routed.1 routed with
    | entry _ path _ _ _ served decoded _ found =>
        obtain ⟨split, mounted, registered, lookup⟩ := entry?_eq_some_iff_split.1 found
        exact ⟨noFile, method, path, rest, mounted, run, served, decoded, split, registered, lookup⟩

variable {router : Router σ}

theorem tag_eq_websocket_iff :
    router.tag files incoming = .websocket ↔ isUpgradeRequest incoming.fields = true := by
  unfold Router.tag
  split
  · simp [*]
  · cases router.server.route files incoming <;> simp [Route.tag, *]

/-- A request is counted as static exactly if a file answers it. -/
theorem tag_eq_static_iff : router.tag files incoming = .static ↔
    isUpgradeRequest incoming.fields = false ∧ FileResolves router.server files incoming := by
  rw [fileResolves_iff]
  unfold Router.tag
  split
  · simp [*]
  · cases router.server.route files incoming <;> simp [Route.tag, *]

/-- A request is counted under a service exactly if that has an entry point for
it. -/
theorem tag_eq_service_iff {name : String} : router.tag files incoming = .service name ↔
    isUpgradeRequest incoming.fields = false ∧ EntryFound router.server files incoming name := by
  rw [entryFound_iff]
  unfold Router.tag
  split
  · simp [*]
  · cases router.server.route files incoming <;> simp [Route.tag, *]

/-- Nothing is left to be counted under but that nothing has answered. -/
theorem tag_eq_none_iff : router.tag files incoming = .none ↔
    isUpgradeRequest incoming.fields = false ∧ ¬ FileResolves router.server files incoming ∧
      ∀ name, ¬ EntryFound router.server files incoming name := by
  simp only [fileResolves_iff, entryFound_iff]
  unfold Router.tag
  split
  · simp [*]
  · cases router.server.route files incoming <;> simp [Route.tag, *]

theorem service_answer (server : Server σ) (files : FileSystem) (incoming : Incoming) (state : σ) :
    (server.answer files incoming state).2.1 = (server.route files incoming).tag.text := by
  unfold Server.answer
  cases server.route files incoming <;> rfl

end Tags

/-! ### An answer, and the session that it starts -/

namespace Router

variable (router : Router σ) (files : FileSystem) (incoming : Incoming) (world : World σ)

/-- What the answer to a request is counted by. -/
def label : RequestLabel :=
  { method := incoming.method
    status := (router.dispatch files incoming world).reply.status.code
    service := (router.tag files incoming).text }

/-- The world in which a request has been answered and counted, and the session
that it starts has its number. -/
def serve : World σ :=
  let served : World σ :=
    if isUpgradeRequest incoming.fields then
      match router.server.upgrade incoming with
      | .rejected _ => world
      | .accepted _ _ _ => { world with nextSession := world.nextSession + 1 }
    else
      { world with app := (router.server.answer files incoming world.app).2.2 }
  { served with metrics := world.metrics.recordRequest (router.label files incoming world) }

end Router

section Admission

variable {router : Router σ} {files : FileSystem} {incoming : Incoming} {world : World σ}

/-- A dispatch answers the request, and then opens the session that starts. -/
theorem dispatch_world :
    (router.dispatch files incoming world).world =
      match (router.dispatch files incoming world).session with
      | some (info, handler) => openSession handler info (router.serve files incoming world)
      | none => router.serve files incoming world := by
  unfold Router.serve Router.label Router.tag Router.dispatch
  cases upgrades : isUpgradeRequest incoming.fields with
  | true =>
      simp only [if_true]
      cases router.server.upgrade incoming <;> rfl
  | false =>
      simp only [Bool.false_eq_true, if_false, service_answer]

theorem registry_serve : (router.serve files incoming world).registry = world.registry := by
  unfold Router.serve
  dsimp only
  split
  · split <;> rfl
  · rfl

/-- A session that starts gets the next number. -/
theorem number_of_starts {info : SessionInfo} {handler : Handler σ}
    (starts : (router.dispatch files incoming world).session = some (info, handler)) :
    info.id = world.nextSession ∧
      (router.serve files incoming world).nextSession = world.nextSession + 1 := by
  unfold Router.dispatch at starts
  unfold Router.serve
  cases upgrades : isUpgradeRequest incoming.fields with
  | false => simp [upgrades] at starts
  | true =>
      cases upgraded : router.server.upgrade incoming with
      | rejected reply => simp [upgrades, upgraded] at starts
      | accepted reply protocol handler =>
          simp only [upgrades, upgraded, if_true] at starts ⊢
          cases starts
          exact ⟨rfl, trivial⟩

/-- Without one, no number is used. -/
theorem number_of_quiet (quiet : (router.dispatch files incoming world).session = none) :
    (router.serve files incoming world).nextSession = world.nextSession := by
  unfold Router.dispatch at quiet
  unfold Router.serve
  cases upgrades : isUpgradeRequest incoming.fields with
  | false => rfl
  | true =>
      cases upgraded : router.server.upgrade incoming with
      | rejected reply => simp only [if_true]
      | accepted reply protocol handler => simp [upgrades, upgraded] at quiet

end Admission

/-! ### Requests around sessions -/

/-- A request that was answered, the files that there were, and the answer. -/
structure Exchange where
  files : FileSystem
  incoming : Incoming
  reply : Reply

/-- What the answer of an exchange was counted by. -/
def Exchange.label (router : Router σ) (exchange : Exchange) : RequestLabel :=
  { method := exchange.incoming.method
    status := exchange.reply.status.code
    service := (router.tag exchange.files exchange.incoming).text }

/-- Around the sessions of a server, requests are answered, and some of them
start another session. -/
def Router.environment (router : Router σ) : Environment σ Exchange where
  changes := fun before exchange after =>
    exchange.reply = (router.dispatch exchange.files exchange.incoming before).reply ∧
      (router.dispatch exchange.files exchange.incoming before).session = none ∧
      after = router.serve exchange.files exchange.incoming before
  accepts := fun before exchange info handler after =>
    exchange.reply = (router.dispatch exchange.files exchange.incoming before).reply ∧
      (router.dispatch exchange.files exchange.incoming before).session = some (info, handler) ∧
      after = router.serve exchange.files exchange.incoming before
  changes_registry := by
    rintro before exchange after ⟨-, quiet, rfl⟩
    exact ⟨registry_serve, number_of_quiet quiet⟩
  accepts_registry := by
    rintro before exchange info handler after ⟨-, starts, rfl⟩
    obtain ⟨number, next⟩ := number_of_starts starts
    exact ⟨number, registry_serve, next⟩

/-- A request in due form for a session of one protocol. -/
def Incoming.forProtocol (protocol : String) : Incoming :=
  { method := "GET"
    target := { authority := none, path := "/", query := none }
    fields := ((((Fields.empty.setValue .connection "Upgrade").setValue .upgrade
      "websocket").setValue .socketVersion "13").setValue .socketKey "a2V5").setValue
        .socketProtocol protocol
    body := some []
    peer := none
    upgradable := true }

end WebHost
