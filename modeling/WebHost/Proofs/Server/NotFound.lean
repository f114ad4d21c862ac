/-
Module: WebHost.Proofs.Server.NotFound
Purpose: The answer to requests that neither a static file nor an entry point
  serves.
Main exports:
  NotFoundPage, notFoundPage_iff, ShowsContent.finish, unserved_request_gets_page
-/
import WebHost.Proofs.Config.Accepted
import WebHost.Proofs.Files.Containment
import WebHost.Proofs.Server.BodyGate
import WebHost.Proofs.Server.CommonHeaders

namespace WebHost

open Text

/-!
The page for such a request is the configured one, if that is found and can be
read, and else the built-in one.  It is sent with the content type of its
extension and the configured encoding.  The check of a configuration asks only
that the encoding is not blank, so the content type may be one that no header
can show, and then there is no page but a failure.
-/

variable {σ : Type}

/-! ### Content types -/

/-- The content type of an extension names the encoding, which is not empty in an
accepted configuration. -/
theorem contentTypeOf_of_accepted {server : Server σ} {files : FileSystem}
    (accepted : server.config.faults files = []) (extension : String) :
    server.contentTypeOf extension =
      server.types.get extension ++ "; charset=" ++ server.config.http.encoding := by
  have named : server.config.http.encoding ≠ "" := by
    intro empty
    apply ((faults_eq_nil_iff files server.config).1 accepted).encoding
    rw [empty]
    rfl
  unfold Server.contentTypeOf Fields.contentTypeText
  rw [if_neg named]

/-! ### The page -/

/-- The page for requests that nothing serves, with the extension that tells its
content type. -/
inductive NotFoundPage (server : Server σ) (files : FileSystem) : Bytes → String → Prop where
  | configured (root page : String) (location : Location) (content : Bytes)
      (rooted : server.config.http.rootDirectory = some root)
      (named : server.config.http.notFoundPath = some page)
      (resolved : resolve? files root page [] = some location)
      (read : files.read location.text = .ok content) :
      NotFoundPage server files content (extensionOf location.text)
  | builtIn (missing : ∀ root page location content,
      server.config.http.rootDirectory = some root →
      server.config.http.notFoundPath = some page →
      resolve? files root page [] = some location → files.read location.text ≠ .ok content) :
      NotFoundPage server files (encode defaultNotFoundPage) "html"

section Pages

variable (server : Server σ) (files : FileSystem)

/-- There is exactly one such page, the one that the server sends. -/
theorem notFoundPage_iff (content : Bytes) (extension : String) :
    NotFoundPage server files content extension ↔
      (server.notFoundPage? files).getD (encode defaultNotFoundPage, "html") =
        (content, extension) := by
  constructor
  · intro page
    cases page with
    | configured root page location content rooted named resolved read =>
        have found := notFoundPage?_eq_some_iff.2
          ⟨root, page, location, rooted, named, resolved, read, rfl⟩
        rw [found, Option.getD_some]
    | builtIn missing =>
        have unfound : server.notFoundPage? files = none := by
          apply Option.eq_none_iff_forall_ne_some.2
          rintro ⟨content, extension⟩ found
          obtain ⟨root, page, location, rooted, named, resolved, read, -⟩ :=
            notFoundPage?_eq_some_iff.1 found
          exact missing root page location content rooted named resolved read
        rw [unfound, Option.getD_none]
  · intro sent
    cases found : server.notFoundPage? files with
    | some page =>
        rw [found, Option.getD_some] at sent
        subst sent
        obtain ⟨root, page, location, rooted, named, resolved, read, rfl⟩ :=
          notFoundPage?_eq_some_iff.1 found
        exact .configured root page location content rooted named resolved read
    | none =>
        rw [found, Option.getD_none] at sent
        cases sent
        apply NotFoundPage.builtIn
        intro root page location content rooted named resolved read
        have page := notFoundPage?_eq_some_iff.2
          ⟨root, page, location, rooted, named, resolved, read, rfl⟩
        rw [found] at page
        cases page

end Pages

section PageOf

variable {server : Server σ} {files : FileSystem} {content : Bytes} {extension : String}

theorem notFoundBody_of_page (page : NotFoundPage server files content extension) :
    server.notFoundBody files = content := by
  have sent := congrArg Prod.fst ((notFoundPage_iff server files content extension).1 page)
  unfold Server.notFoundBody
  cases found : server.notFoundPage? files with
  | none => simpa [found] using sent
  | some chosen => simpa [found] using sent

theorem notFoundType_of_page (accepted : server.config.faults files = [])
    (page : NotFoundPage server files content extension) :
    server.notFoundType files =
      server.types.get extension ++ "; charset=" ++ server.config.http.encoding := by
  have sent := congrArg Prod.snd ((notFoundPage_iff server files content extension).1 page)
  have shown : ((server.notFoundPage? files).map (·.2)).getD "html" = extension := by
    cases found : server.notFoundPage? files with
    | none => simpa [found] using sent
    | some chosen => simpa [found] using sent
  unfold Server.notFoundType
  rw [shown, contentTypeOf_of_accepted accepted]

end PageOf

/-! ### The reply -/

/-- The common headers leave what is shown alone. -/
theorem ShowsContent.finish {reply : Reply} {code : Nat} {content : Bytes} {contentType : String}
    (shows : ShowsContent reply code content contentType) (router : Router σ)
    {incoming : Incoming} {method : Method} (served : incoming.method = method.name)
    (fresh : FieldValue) :
    ShowsContent (router.finish incoming fresh reply) code content contentType := by
  constructor
  · rw [status_finish, shows.status]
  · rw [body_finish served, shows.body]
  · rw [values_finish router incoming fresh reply (by decide)]
    exact shows.shown

/-- A request that neither a static file nor an entry point serves gets the page
with status 404, if the content type of its extension and the encoding can stand
in a header, and status 500 if they cannot. -/
theorem unserved_request_gets_page (router : Router σ) (files : FileSystem) (incoming : Incoming)
    (fresh : FieldValue) (world : World σ) (accepted : router.server.config.faults files = [])
    (received : incoming.Received) (plain : isUpgradeRequest incoming.fields = false)
    (unserved : FirstRule router.server files incoming .undecodable ∨
      FirstRule router.server files incoming .unmatched) :
    ∃ content extension, NotFoundPage router.server files content extension ∧
      (∀ other otherExtension, NotFoundPage router.server files other otherExtension →
        other = content ∧ otherExtension = extension) ∧
      (IsLegalValue (router.server.types.get extension) ∧
          IsLegalValue router.server.config.http.encoding →
        ShowsContent (router.respond files incoming fresh world).1 404 content
          (router.server.types.get extension ++ "; charset=" ++
            router.server.config.http.encoding)) ∧
      (¬ (IsLegalValue (router.server.types.get extension) ∧
          IsLegalValue router.server.config.http.encoding) →
        (router.respond files incoming fresh world).1.status.code = 500) := by
  obtain ⟨replied, -, -⟩ := respond_of_not_upgrade router files plain fresh world
  have answered : (router.server.answer files incoming world.app).1 =
      router.server.answerUnmatched files := by
    unfold Server.answer
    rcases unserved with rule | rule
    · rw [(route_eq_iff_firstRule received).2 rule]
    · rw [(route_eq_iff_firstRule received).2 rule]
  have served : ∃ method : Method, incoming.method = method.name := by
    rcases unserved with rule | rule
    · cases rule with
      | undecodable method served notText => exact ⟨method, served⟩
    · cases rule with
      | unmatched method path served decoded noFile noEntry => exact ⟨method, served⟩
  obtain ⟨method, served⟩ := served
  obtain ⟨⟨content, extension⟩, sent⟩ : ∃ page,
      (router.server.notFoundPage? files).getD (encode defaultNotFoundPage, "html") = page :=
    ⟨_, rfl⟩
  have page := (notFoundPage_iff router.server files content extension).2 sent
  have type := notFoundType_of_page accepted page
  have legal_iff : IsLegalValue (router.server.notFoundType files) ↔
      IsLegalValue (router.server.types.get extension) ∧
        IsLegalValue router.server.config.http.encoding := by
    have between : IsLegalValue "; charset=" := by
      rw [isLegalValue_iff]
      decide
    rw [type, isLegalValue_append, isLegalValue_append]
    simp [between]
  have answer := notFoundAnswer_answerUnmatched router.server files
  refine ⟨content, extension, page, ?_, ?_, ?_⟩
  · intro other otherExtension another
    have same := (notFoundPage_iff router.server files other otherExtension).1 another
    rw [sent] at same
    cases same
    exact ⟨rfl, rfl⟩
  · intro legal
    have shows := answer.page (legal_iff.2 legal)
    rw [notFoundBody_of_page page, type] at shows
    rw [replied, answered]
    exact shows.finish router served fresh
  · intro illegal
    rw [replied, answered, status_finish, status_answerUnmatched_of_illegal]
    · rfl
    · exact fun legal => illegal (legal_iff.1 legal)

/-- A path that is no text gets the configured page, found below the root. -/
theorem unserved_request_gets_page_configured :
    let files : FileSystem :=
      { root := .directory [("site", .directory [("lost.css", .file (some [1, 2]))])]
        working := [] }
    let http : HttpConfig :=
      { HttpConfig.standard with rootDirectory := some "/site", notFoundPath := some "lost.css" }
    let config : Config := { Config.standard with http := http }
    let incoming := Incoming.bare "DELETE" "/%ff"
    config.faults files = [] ∧ ∃ router : Router Unit, router.server = Server.ofConfig config ∧
      ShowsContent (router.respond files incoming (.ofTexts []) (World.initial ())).1 404 [1, 2]
        "text/css; charset=utf-8" := by
  intro files http config incoming
  have accepted : config.faults files = [] := by decide +kernel
  refine ⟨accepted, ?_⟩
  let router : Router Unit := .standard (Server.ofConfig config)
  obtain ⟨content, extension, page, unique, shown, -⟩ :=
    unserved_request_gets_page router files incoming (.ofTexts []) (World.initial ()) accepted
      ⟨"/%ff", by decide⟩ (by decide) (.inl (.undecodable .delete rfl (by decide)))
  have lost : NotFoundPage router.server files [1, 2] "css" :=
    .configured "/site" "lost.css" { root := "/site", parts := ["lost.css"] } [1, 2] rfl rfl
      (by decide) rfl
  obtain ⟨rfl, rfl⟩ := unique _ _ lost
  refine ⟨router, rfl, ?_⟩
  exact shown ⟨(isLegalValue_iff _).2 (by decide), (isLegalValue_iff _).2 (by decide)⟩

/-- An accepted encoding may leave no page to show. -/
theorem unserved_request_without_page :
    ¬ ∀ (router : Router Unit) (files : FileSystem) (incoming : Incoming) (fresh : FieldValue)
      (world : World Unit), router.server.config.faults files = [] → incoming.Received →
        isUpgradeRequest incoming.fields = false →
        FirstRule router.server files incoming .unmatched →
        (router.respond files incoming fresh world).1.status.code = 404 := by
  intro always
  let http : HttpConfig := { HttpConfig.standard with encoding := "bad\nenc" }
  let router : Router Unit := .standard (Server.ofConfig { Config.standard with http := http })
  have noFile : NoFile router.server default .post "/nothing" := nofun
  have noEntry : NoEntry router.server .post "/nothing" := by
    intro service rest mounted named registered
    cases registered
  have found := always router default (.bare "POST" "/nothing") (.ofTexts []) (World.initial ())
    (by decide +kernel) ⟨"/nothing", by decide⟩ (by decide)
    (.unmatched .post "/nothing" rfl (by decide) noFile noEntry)
  exact absurd found (by decide)

end WebHost
