/-
Module: WebHost.Proofs.Server.Dispatch
Purpose: The first applicable rule decides who answers a request, and no more
  application code runs than that rule says.
Main exports:
  FirstRule, route_eq_iff_firstRule, ShowsContent, Answered, answer_answered,
  first_rule_answers
-/
import WebHost.Demo
import WebHost.Proofs.Header.Values
import WebHost.Proofs.Server.Invocations
import WebHost.Proofs.Server.Paths
import WebHost.Proofs.Server.Routes

namespace WebHost

open Text

/-!
The rules are stated here as they are told to a user of the server, each with
what keeps the rules before it from applying.  The route that a server takes is
the one that these rules single out, for every request that can be received.
-/

variable {σ : Type}

/-! ### The rules in their order -/

/-- No static file answers the request: only GET asks for one, and the path
leads to none below the root. -/
def NoFile (server : Server σ) (files : FileSystem) (method : Method) (path : String) : Prop :=
  method = .get → ∀ root, server.config.http.rootDirectory = some root →
    resolve? files root path server.resourceNames.names = none

/-- No service has an entry point for the method and the path. -/
def NoEntry (server : Server σ) (method : Method) (path : String) : Prop :=
  ∀ service rest mounted, IsServicePath path service rest →
    server.service? service = some mounted → mounted.lookup? rest method = none

/-- The first applicable rule for a request without an upgrade. -/
inductive FirstRule (server : Server σ) (files : FileSystem) (incoming : Incoming) :
    Route σ → Prop where
  | methodNotAllowed (foreign : ∀ method : Method, incoming.method ≠ method.name) :
      FirstRule server files incoming .methodNotAllowed
  | undecodable (method : Method) (served : incoming.method = method.name)
      (notText : percentDecodeText? incoming.target.path = none) :
      FirstRule server files incoming .undecodable
  | resource (root path : String) (location : Location)
      (served : incoming.method = Method.get.name)
      (decoded : percentDecodeText? incoming.target.path = some path)
      (rooted : server.config.http.rootDirectory = some root)
      (resolved : resolve? files root path server.resourceNames.names = some location) :
      FirstRule server files incoming (.resource location)
  | entry (method : Method) (path service rest : String) (mounted : Service σ)
      (run : EntryPoint σ) (served : incoming.method = method.name)
      (decoded : percentDecodeText? incoming.target.path = some path)
      (noFile : NoFile server files method path)
      (named : IsServicePath path service rest)
      (registered : server.service? service = some mounted)
      (found : mounted.lookup? rest method = some run) :
      FirstRule server files incoming (.entry service rest method run)
  | unmatched (method : Method) (path : String) (served : incoming.method = method.name)
      (decoded : percentDecodeText? incoming.target.path = some path)
      (noFile : NoFile server files method path) (noEntry : NoEntry server method path) :
      FirstRule server files incoming .unmatched

section Routes

variable {server : Server σ} {files : FileSystem} {incoming : Incoming}

theorem noFile_iff {method : Method} {path : String} :
    NoFile server files method path ↔ (method = .get → server.resource? files path = none) := by
  unfold NoFile Server.resource?
  simp only [Option.bind_eq_none_iff]

/-- The entry point that the server looks up, by the form of the path. -/
theorem entry?_eq_some_iff (received : incoming.Received) {path : String}
    (decoded : percentDecodeText? incoming.target.path = some path) {method : Method}
    {service rest : String} {run : EntryPoint σ} :
    server.entry? path method = some (service, rest, run) ↔
      IsServicePath path service rest ∧
        ∃ mounted, server.service? service = some mounted ∧
          mounted.lookup? rest method = some run := by
  rw [entry?_eq_some_iff_split, splitServicePath_of_received received decoded]

theorem noEntry_iff (received : incoming.Received) {path : String}
    (decoded : percentDecodeText? incoming.target.path = some path) {method : Method} :
    NoEntry server method path ↔ server.entry? path method = none := by
  rw [Option.eq_none_iff_forall_ne_some]
  constructor
  · rintro noEntry ⟨service, rest, run⟩ found
    obtain ⟨named, mounted, registered, lookup⟩ := (entry?_eq_some_iff received decoded).1 found
    rw [noEntry service rest mounted named registered] at lookup
    cases lookup
  · intro unfound service rest mounted named registered
    cases lookup : mounted.lookup? rest method with
    | none => rfl
    | some run =>
        exact absurd ((entry?_eq_some_iff received decoded).2 ⟨named, mounted, registered, lookup⟩)
          (unfound (service, rest, run))

/-- The rules give the reasons for which the routes are taken. -/
theorem firstRule_iff_routed (received : incoming.Received) {route : Route σ} :
    FirstRule server files incoming route ↔ Routed server files incoming route := by
  constructor
  · intro rule
    cases rule with
    | methodNotAllowed foreign => exact .methodNotAllowed foreign
    | undecodable method served notText => exact .undecodable method served notText
    | resource root path location served decoded rooted resolved =>
        have found : server.resource? files path = some location := by
          simp [Server.resource?, rooted, resolved]
        exact .resource path location served decoded found
    | entry method path service rest mounted run served decoded noFile named registered found =>
        exact .entry method path service rest run served decoded (noFile_iff.1 noFile)
          ((entry?_eq_some_iff received decoded).2 ⟨named, mounted, registered, found⟩)
    | unmatched method path served decoded noFile noEntry =>
        exact .unmatched method path served decoded (noFile_iff.1 noFile)
          ((noEntry_iff received decoded).1 noEntry)
  · intro reason
    cases reason with
    | methodNotAllowed foreign => exact .methodNotAllowed foreign
    | undecodable method served notText => exact .undecodable method served notText
    | resource path location served decoded found =>
        obtain ⟨root, rooted, resolved⟩ := Option.bind_eq_some_iff.1 found
        exact .resource root path location served decoded rooted resolved
    | entry method path service rest run served decoded noFile found =>
        obtain ⟨named, mounted, registered, lookup⟩ := (entry?_eq_some_iff received decoded).1 found
        exact .entry method path service rest mounted run served decoded (noFile_iff.2 noFile)
          named registered lookup
    | unmatched method path served decoded noFile noEntry =>
        exact .unmatched method path served decoded (noFile_iff.2 noFile)
          ((noEntry_iff received decoded).2 noEntry)

/-- For a request that can be received, the route is the one that the rules
single out. -/
theorem route_eq_iff_firstRule (received : incoming.Received) {route : Route σ} :
    server.route files incoming = route ↔ FirstRule server files incoming route := by
  rw [route_eq_iff_routed, firstRule_iff_routed received]

end Routes

/-! ### What the rules answer -/

/-- The body of the answer to a request that nothing matches. -/
def Server.notFoundBody (server : Server σ) (files : FileSystem) : Bytes :=
  ((server.notFoundPage? files).map (·.1)).getD (encode defaultNotFoundPage)

/-- The content type of the answer to a request that nothing matches. -/
def Server.notFoundType (server : Server σ) (files : FileSystem) : String :=
  server.contentTypeOf (((server.notFoundPage? files).map (·.2)).getD "html")

/-- The reply is this content with this status and this one content type. -/
structure ShowsContent (reply : Reply) (code : Nat) (content : Bytes) (contentType : String) :
    Prop where
  status : reply.status.code = code
  body : reply.body = content
  shown : ∃ value, reply.fields.values .contentType = [value] ∧ value.bytes = encode contentType

/-- The answer to a request that nothing matches: a page with status 404, if a header
can show its content type.  It never asks for a length. -/
structure NotFoundAnswer (server : Server σ) (files : FileSystem) (reply : Reply) : Prop where
  page : IsLegalValue (server.notFoundType files) →
    ShowsContent reply 404 (server.notFoundBody files) (server.notFoundType files)
  noLength : reply.status.code ≠ 411

/-- The answer with a static file: its bytes, if a header can show its content type,
or a failure if they cannot be read. -/
structure FileAnswer (server : Server σ) (files : FileSystem) (location : Location)
    (reply : Reply) : Prop where
  bytes : ∀ content, files.read location.text = .ok content →
    IsLegalValue (server.contentTypeOf (extensionOf location.text)) →
    ShowsContent reply 200 content (server.contentTypeOf (extensionOf location.text))
  failure : (∀ content, files.read location.text ≠ .ok content) → reply.status.code = 500

/-- What becomes of a request on each route: the reply, the state that is left
and the application code that was called. -/
inductive Answered (server : Server σ) (files : FileSystem) (incoming : Incoming) (state : σ) :
    Route σ → Reply → σ → List Invocation → Prop where
  | methodNotAllowed (reply : Reply) (refused : reply.status.code = 405) :
      Answered server files incoming state .methodNotAllowed reply state []
  | undecodable (reply : Reply) (page : NotFoundAnswer server files reply) :
      Answered server files incoming state .undecodable reply state []
  | resource (location : Location) (reply : Reply)
      (file : FileAnswer server files location reply) :
      Answered server files incoming state (.resource location) reply state []
  | refused (service path : String) (method : Method) (run : EntryPoint σ) (fault : BodyFault)
      (checked : readContent server.config.limits.maxBodySize method incoming = .error fault) :
      Answered server files incoming state (.entry service path method run)
        (plainReply fault.status fault.message) state []
  | entry (service path : String) (method : Method) (run : EntryPoint σ) (content : Bytes)
      (request : Request) (made : request = Server.entryRequest method incoming content)
      (checked : readContent server.config.limits.maxBodySize method incoming = .ok content) :
      Answered server files incoming state (.entry service path method run)
        (run request server.entryResponse state).1.reply
        (run request server.entryResponse state).2
        [.entry service path request]
  | unmatched (reply : Reply) (page : NotFoundAnswer server files reply) :
      Answered server files incoming state .unmatched reply state []

section Replies

/-- Content under a type that a header can show is sent as it is. -/
theorem showsContent_typedReply (status : Status) {contentType : String} (body : Bytes)
    (legal : IsLegalValue contentType) :
    ShowsContent (typedReply status contentType body) status.code body contentType := by
  obtain ⟨value, shown⟩ := Option.isSome_iff_exists.1 legal
  have made : typedReply status contentType body =
      { status := status, fields := Fields.empty.set .contentType value, body := body } := by
    simp [typedReply, shown]
  rw [made]
  exact ⟨rfl, rfl, value, by simp, FieldValue.ofBytes?_eq_some_iff.1 shown⟩

theorem typedReply_of_illegal {status : Status} {contentType : String} {body : Bytes}
    (illegal : ¬ IsLegalValue contentType) :
    (typedReply status contentType body).status = .internalError := by
  have shown : FieldValue.ofText? contentType = none := by simpa [IsLegalValue] using illegal
  simp [typedReply, shown, plainReply]

variable (server : Server σ) (files : FileSystem)

theorem answerUnmatched_eq : server.answerUnmatched files =
    typedReply .notFound (server.notFoundType files) (server.notFoundBody files) := by
  unfold Server.answerUnmatched Server.notFoundType Server.notFoundBody
  cases server.notFoundPage? files <;> rfl

theorem status_answerUnmatched_of_illegal (illegal : ¬ IsLegalValue (server.notFoundType files)) :
    (server.answerUnmatched files).status = .internalError := by
  rw [answerUnmatched_eq, typedReply_of_illegal illegal]

theorem notFoundAnswer_answerUnmatched :
    NotFoundAnswer server files (server.answerUnmatched files) := by
  have page : IsLegalValue (server.notFoundType files) → ShowsContent
      (server.answerUnmatched files) 404 (server.notFoundBody files)
      (server.notFoundType files) := by
    intro legal
    rw [answerUnmatched_eq]
    exact showsContent_typedReply .notFound _ legal
  refine ⟨page, ?_⟩
  by_cases legal : IsLegalValue (server.notFoundType files)
  · rw [(page legal).status]
    decide
  · rw [status_answerUnmatched_of_illegal server files legal]
    decide

variable {files} {location : Location} {content : Bytes}

/-- A file that can be read is sent under the content type of its extension. -/
theorem answerResource_of_read (read : files.read location.text = .ok content) :
    server.answerResource files location =
      typedReply .success (server.contentTypeOf (extensionOf location.text)) content := by
  unfold Server.answerResource
  rw [read]

theorem fileAnswer_answerResource :
    FileAnswer server files location (server.answerResource files location) := by
  constructor
  · intro content read legal
    rw [answerResource_of_read server read]
    exact showsContent_typedReply .success content legal
  · intro unread
    unfold Server.answerResource
    cases read : files.read location.text with
    | error reason => rfl
    | ok content => exact absurd read (unread content)

/-- Every request without an upgrade is answered as its route says. -/
theorem answer_answered (files : FileSystem) (incoming : Incoming) (state : σ) :
    Answered server files incoming state (server.route files incoming)
      (server.answer files incoming state).1 (server.answer files incoming state).2.2
      (server.invocations files incoming) := by
  unfold Server.answer Server.invocations
  cases server.route files incoming with
  | methodNotAllowed => exact .methodNotAllowed _ rfl
  | undecodable => exact .undecodable _ (notFoundAnswer_answerUnmatched server files)
  | resource location =>
      exact .resource location _ (fileAnswer_answerResource server)
  | unmatched => exact .unmatched _ (notFoundAnswer_answerUnmatched server files)
  | entry service path method run =>
      dsimp only [Server.answerEntry]
      cases checked : readContent server.config.limits.maxBodySize method incoming with
      | error fault => exact .refused service path method run fault checked
      | ok content => exact .entry service path method run content _ rfl checked

end Replies

/-- What a started server does with a request without an upgrade. -/
theorem respond_of_not_upgrade (router : Router σ) (files : FileSystem) {incoming : Incoming}
    (plain : isUpgradeRequest incoming.fields = false) (fresh : FieldValue) (world : World σ) :
    (router.respond files incoming fresh world).1 =
        router.finish incoming fresh (router.server.answer files incoming world.app).1 ∧
      (router.respond files incoming fresh world).2.app =
        (router.server.answer files incoming world.app).2.2 ∧
      router.invocations files incoming world = router.server.invocations files incoming := by
  simp [Router.respond, Router.dispatch, Router.invocations, plain]

/-- The common headers leave the status alone. -/
theorem status_finish (router : Router σ) (incoming : Incoming) (fresh : FieldValue)
    (reply : Reply) : (router.finish incoming fresh reply).status = reply.status := by
  simp only [Router.finish, Router.frame]
  split <;> rfl

/-- The first applicable rule is the only one to decide on a request without an
upgrade: it determines the reply, the state that is left and, through the log,
the application code that was called, which is one entry point called once or
nothing at all. -/
theorem first_rule_answers (router : Router σ) (files : FileSystem) (incoming : Incoming)
    (fresh : FieldValue) (world : World σ) (log : List Invocation)
    (received : incoming.Received) (plain : isUpgradeRequest incoming.fields = false) :
    ∃ route reply state calls,
      FirstRule router.server files incoming route ∧
      (∀ other, FirstRule router.server files incoming other → other = route) ∧
      Answered router.server files incoming world.app route reply state calls ∧
      (router.respond files incoming fresh world).1 = router.finish incoming fresh reply ∧
      (router.respond files incoming fresh world).1.status = reply.status ∧
      (router.respond files incoming fresh world).2.app = state ∧
      (router.logged.respond files incoming fresh (world.logged log)).1 =
        (router.respond files incoming fresh world).1 ∧
      (router.logged.respond files incoming fresh (world.logged log)).2.app =
        (state, log ++ calls) := by
  obtain ⟨replied, left, called⟩ := respond_of_not_upgrade router files plain fresh world
  have logged := router.respond_logged files incoming fresh world log
  refine ⟨_, _, _, _, (route_eq_iff_firstRule received).1 rfl, ?_,
    answer_answered router.server files incoming world.app, replied, ?_, left, ?_, ?_⟩
  · exact fun other rule => ((route_eq_iff_firstRule received).2 rule).symm
  · rw [replied, status_finish]
  · rw [logged]
  · rw [logged, ← left, ← called]
    rfl

/-- The demonstration server runs its entry point for POST once, on the body of
the request. -/
theorem first_rule_answers_post :
    let incoming : Incoming :=
      { Incoming.bare "POST" "/webservice/post" with
        fields := Fields.empty.setValue .contentLength "5"
        body := some (encode "hello") }
    incoming.Received ∧ isUpgradeRequest incoming.fields = false ∧
      ∃ route reply state calls,
        FirstRule (Server.ofConfig default).addDemo default incoming route ∧
        Answered (Server.ofConfig default).addDemo default incoming Demo.initial route reply
          state calls ∧
        reply.status.code = 200 ∧ state = { Demo.initial with posts := 1 } ∧
        calls.length = 1 := by
  intro incoming
  have received : incoming.Received := ⟨"/webservice/post", by decide⟩
  have plain : isUpgradeRequest incoming.fields = false := by decide
  refine ⟨received, plain, ?_⟩
  let router : Router Demo := .standard (Server.ofConfig default).addDemo
  obtain ⟨route, reply, state, calls, rule, _, answered, _, status, left, _, logged⟩ :=
    first_rule_answers router default incoming (.ofTexts []) (World.initial Demo.initial) []
      received plain
  refine ⟨route, reply, state, calls, rule, answered, ?_, ?_, ?_⟩
  · rw [← status]
    decide
  · rw [← left]
    decide
  · have entries := congrArg (fun app => app.2.length) logged
    simp only [List.nil_append] at entries
    rw [← entries]
    decide

/-- A file that cannot be read is not answered with its bytes. -/
theorem unreadable_file_fails :
    ¬ ∀ (router : Router Unit) (files : FileSystem) (incoming : Incoming) (fresh : FieldValue)
      (world : World Unit) (location : Location), incoming.Received →
        isUpgradeRequest incoming.fields = false →
        FirstRule router.server files incoming (.resource location) →
        (router.respond files incoming fresh world).1.status.code = 200 := by
  intro always
  let http : HttpConfig := { HttpConfig.standard with rootDirectory := some "/site" }
  let files : FileSystem :=
    { root := .directory [("site", .directory [("mem", .file none)])], working := [] }
  let location : Location := { root := "/site", parts := ["mem"] }
  have found := always (.standard (Server.ofConfig { Config.standard with http := http })) files
    (.bare "GET" "/mem") (.ofTexts []) (World.initial ()) location ⟨"/mem", by decide⟩ (by decide)
    (.resource "/site" "/mem" location rfl (by decide) rfl (by decide))
  exact absurd found (by decide)

end WebHost
