/-
Module: WebHost.Proofs.Server.Spelling
Purpose: Every entry point that can be named is reached, in any spelling of its
  path.
Main exports:
  route_eq_entry_iff, Incoming.Respelt, route_respelt, invocations_respelt,
  entry_points_reached_in_any_spelling
-/
import WebHost.Demo
import WebHost.Proofs.Server.Dispatch

namespace WebHost

open Text

/-!
A service is mounted at its name, so a name that is empty or has a slash in it
cannot be told from the path around it; every other name leads to its entry
points.  Between the request and the decision stands only the decoded path, and
so it makes no difference how a path is spelt, but for the request that the
entry point sees, which shows the spelling.
-/

variable {σ : Type}

/-- The name of a service can be told in a path. -/
structure IsMountable (name : String) : Prop where
  nonempty : name ≠ ""
  noSlash : '/' ∉ name.toList

/-! ### Mounted entry points -/

section Mounted

variable {server : Server σ} {files : FileSystem} {incoming : Incoming}

theorem head?_mounted (name path : String) :
    ("/" ++ name ++ "/" ++ path).toList.head? = some '/' := by
  simp

/-- A path that a service and an entry point are named in is split into these
names, if the service can be told. -/
theorem splitServicePath_mounted {name path : String} (mountable : IsMountable name) :
    splitServicePath ("/" ++ name ++ "/" ++ path) = some (name, path) :=
  (splitServicePath_of_slash (head?_mounted name path)).2
    ⟨mountable.nonempty, mountable.noSlash, rfl⟩

/-- The route to an entry point goes through a name that can be told. -/
theorem isMountable_of_route {path : String} (slash : path.toList.head? = some '/')
    (decoded : percentDecodeText? incoming.target.path = some path) {name rest : String}
    {method : Method} {run : EntryPoint σ}
    (routed : server.route files incoming = .entry name rest method run) : IsMountable name := by
  cases route_eq_iff_routed.1 routed with
  | entry _ other _ _ _ served read noFile found =>
      cases decoded.symm.trans read
      have named := (splitServicePath_of_slash slash).1 (entry?_eq_some_iff_split.1 found).1
      exact ⟨named.nonempty, named.noSlash⟩

/-- Without static files, the request for an entry point of a service reaches it
if the name of the service can be told, and else no entry point of that service. -/
theorem route_eq_entry_iff (rootless : server.config.http.rootDirectory = none)
    {name path : String} {service : Service σ} (registered : server.service? name = some service)
    {method : Method} {run : EntryPoint σ} (entered : service.lookup? path method = some run)
    (served : incoming.method = method.name)
    (decoded : percentDecodeText? incoming.target.path = some ("/" ++ name ++ "/" ++ path)) :
    server.route files incoming = .entry name path method run ↔ IsMountable name := by
  constructor
  · exact isMountable_of_route (head?_mounted name path) decoded
  · intro mountable
    have noFile : server.resource? files ("/" ++ name ++ "/" ++ path) = none := by
      rw [Server.resource?, rootless, Option.bind_none]
    exact route_of_routed (.entry method _ name path run served decoded (fun _ => noFile)
      (entry?_eq_some_iff_split.2
        ⟨splitServicePath_mounted mountable, service, registered, entered⟩))

end Mounted

/-! ### Spellings -/

/-- Another request that says the same, its path perhaps spelt in another way. -/
structure Incoming.Respelt (one other : Incoming) : Prop where
  method : other.method = one.method
  query : other.target.query = one.target.query
  fields : other.fields = one.fields
  body : other.body = one.body
  path : percentDecode (encode other.target.path) = percentDecode (encode one.target.path)

/-- The request that shows another spelling of its path. -/
def Request.spelt (url : String) (request : Request) : Request :=
  { request with url := url }

/-- The call of an entry point by a request that shows another spelling. -/
def Invocation.spelt (url : String) : Invocation → Invocation
  | .entry service path request => .entry service path (request.spelt url)
  | call => call

section Spelling

variable {one other : Incoming} (same : one.Respelt other) (server : Server σ)
  (files : FileSystem)

include same

theorem percentDecodeText?_respelt :
    percentDecodeText? other.target.path = percentDecodeText? one.target.path := by
  unfold percentDecodeText?
  rw [same.path]

/-- The spelling has no part in the decision. -/
theorem route_respelt : server.route files other = server.route files one := by
  unfold Server.route
  rw [same.method, percentDecodeText?_respelt same]

/-- Nor has it in what an entry point gets to see of the body. -/
theorem readContent_respelt (limit : Nat) (method : Method) :
    readContent limit method other = readContent limit method one := by
  unfold readContent
  rw [same.fields, same.body]

/-- The spelling is shown in the request that an entry point sees, and nothing
else of that request is the spelling's. -/
theorem entryRequest_respelt (peer : other.peer = one.peer) (method : Method) (content : Bytes) :
    Server.entryRequest method other content =
      (Server.entryRequest method one content).spelt other.target.path := by
  unfold Server.entryRequest Request.spelt
  rw [same.query, peer]

/-- The same application code is called, with the same requests otherwise. -/
theorem invocations_respelt (peer : other.peer = one.peer) :
    server.invocations files other =
      (server.invocations files one).map (Invocation.spelt other.target.path) := by
  unfold Server.invocations
  rw [route_respelt same]
  cases server.route files one with
  | entry service path method run =>
      dsimp only
      rw [readContent_respelt same]
      cases readContent server.config.limits.maxBodySize method one with
      | error fault => rfl
      | ok content =>
          exact congrArg (fun request => [Invocation.entry service path request])
            (entryRequest_respelt same peer method content)
  | methodNotAllowed => rfl
  | undecodable => rfl
  | resource location => rfl
  | unmatched => rfl

/-- Where no entry point is called, the answer is the same. -/
theorem answer_respelt (uncalled : server.invocations files one = []) (state : σ) :
    server.answer files other state = server.answer files one state := by
  unfold Server.answer
  unfold Server.invocations at uncalled
  rw [route_respelt same]
  cases routed : server.route files one with
  | entry service path method run =>
      dsimp only [Server.answerEntry]
      rw [readContent_respelt same]
      cases read : readContent server.config.limits.maxBodySize method one with
      | error fault => rfl
      | ok content => simp [routed, read] at uncalled
  | methodNotAllowed => rfl
  | undecodable => rfl
  | resource location => rfl
  | unmatched => rfl

theorem upgrade_respelt (upgradable : other.upgradable = one.upgradable) :
    server.upgrade other = server.upgrade one := by
  unfold Server.upgrade checkHandshake
  rw [same.fields, same.method, upgradable]

/-- Unless an entry point is called, all that is done is the same. -/
theorem dispatch_respelt {router : Router σ} (peer : other.peer = one.peer)
    (upgradable : other.upgradable = one.upgradable)
    (uncalled : isUpgradeRequest one.fields = false → router.server.invocations files one = [])
    (world : World σ) :
    router.dispatch files other world = router.dispatch files one world := by
  unfold Router.dispatch
  rw [same.fields, same.method, peer, upgrade_respelt same router.server upgradable]
  cases upgrades : isUpgradeRequest one.fields with
  | true => rfl
  | false => rw [answer_respelt same router.server files (uncalled upgrades)]

end Spelling

/-! ### Reach -/

/-- Without static files, an entry point is what a request for its path selects
if the name of its service can be told, and only then; the answer is then that
of the entry point.  With static files or without, a request whose path is spelt
in another way takes the same route, passes or fails the same checks of its
body, and calls the same application code with the same request, but for the
spelling that the request shows. -/
theorem entry_points_reached_in_any_spelling (router : Router σ) (files : FileSystem) :
    (router.server.config.http.rootDirectory = none →
      ∀ name service path method run incoming, router.server.service? name = some service →
        service.lookup? path method = some run → incoming.method = method.name →
        isUpgradeRequest incoming.fields = false →
        percentDecodeText? incoming.target.path = some ("/" ++ name ++ "/" ++ path) →
        (router.server.route files incoming = .entry name path method run ↔
          name ≠ "" ∧ '/' ∉ name.toList) ∧
        (∀ rest verb callee, router.server.route files incoming = .entry name rest verb callee →
          name ≠ "" ∧ '/' ∉ name.toList) ∧
        (name ≠ "" ∧ '/' ∉ name.toList → ∀ world : World σ,
          (router.dispatch files incoming world).reply =
              (router.server.answerEntry method run incoming world.app).1 ∧
            (router.dispatch files incoming world).world.app =
              (router.server.answerEntry method run incoming world.app).2)) ∧
    ∀ one other, one.Respelt other →
      router.server.route files other = router.server.route files one ∧
      (∀ limit method, readContent limit method other = readContent limit method one) ∧
      (∀ method content,
        (Server.entryRequest method other content).arguments =
          (Server.entryRequest method one content).arguments) ∧
      (other.peer = one.peer →
        (∀ method content, Server.entryRequest method other content =
          (Server.entryRequest method one content).spelt other.target.path) ∧
        router.server.invocations files other =
          (router.server.invocations files one).map (Invocation.spelt other.target.path)) ∧
      (other.peer = one.peer → other.upgradable = one.upgradable →
        (isUpgradeRequest one.fields = false → router.server.invocations files one = []) →
        ∀ world : World σ,
          router.dispatch files other world = router.dispatch files one world) := by
  constructor
  · intro rootless name service path method run incoming registered entered served plain decoded
    have reached : router.server.route files incoming = .entry name path method run ↔
        IsMountable name := route_eq_entry_iff rootless registered entered served decoded
    have mountable : IsMountable name ↔ name ≠ "" ∧ '/' ∉ name.toList :=
      ⟨fun told => ⟨told.nonempty, told.noSlash⟩, fun told => ⟨told.1, told.2⟩⟩
    refine ⟨reached.trans mountable, ?_, ?_⟩
    · intro rest verb callee routed
      exact mountable.1 (isMountable_of_route (head?_mounted name path) decoded routed)
    · intro told world
      simp [Router.dispatch, plain, Server.answer, reached.2 (mountable.2 told)]
  · intro one other same
    refine ⟨route_respelt same _ files, readContent_respelt same, ?_, ?_, ?_⟩
    · intro method content
      exact congrArg Request.splitQuery same.query
    · exact fun peer => ⟨entryRequest_respelt same peer, invocations_respelt same _ files peer⟩
    · exact fun peer upgradable uncalled => dispatch_respelt same files peer upgradable uncalled

/-- The entry point for GET of a demonstration service, in two spellings. -/
theorem entry_points_reached_in_any_spelling_encoded :
    let router : Router Demo := .standard (Server.ofConfig default).addDemo
    let incoming (path : String) : Incoming :=
      { Incoming.bare "GET" path with
        target := { authority := none, path := path, query := some "a=1" } }
    let plain := incoming "/web/some_get"
    let encoded := incoming "/w%65b%2fsome%5Fget"
    router.server.route default plain = .entry "web" "some_get" .get demoGet ∧
      plain.Respelt encoded ∧
      router.server.route default encoded = .entry "web" "some_get" .get demoGet ∧
      router.server.invocations default encoded =
        (router.server.invocations default plain).map (Invocation.spelt "/w%65b%2fsome%5Fget") := by
  intro router incoming plain encoded
  have same : plain.Respelt encoded :=
    { method := rfl, query := rfl, fields := rfl, body := rfl, path := by decide }
  obtain ⟨reached, respelt⟩ := entry_points_reached_in_any_spelling router default
  have routed := ((reached rfl "web" (demoService "web" "some_") "some_get" .get demoGet plain
    rfl rfl rfl (by decide) (by decide)).1).2 ⟨by decide, by decide⟩
  obtain ⟨route, _, _, calls, _⟩ := respelt plain encoded same
  exact ⟨routed, same, route.trans routed, (calls rfl).2⟩

end WebHost
