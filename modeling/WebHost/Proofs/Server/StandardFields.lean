/-
Module: WebHost.Proofs.Server.StandardFields
Purpose: The fields that every answer of a started server carries, whoever made
  the answer.
Main exports:
  carriedNames, StandardValue, standardValue_iff, Reaches, LeftByEntry,
  common_headers_on_every_answer
-/
import WebHost.Proofs.Response.Edits
import WebHost.Proofs.Server.BodyGate
import WebHost.Proofs.Server.Handshake
import WebHost.Script

namespace WebHost

open Text

/-!
The server name and the charset reach an answer on two ways.  An entry point
finds them in the response that it starts from, if they are legal values; what
leaves the server is completed by them or by their fallbacks.  Both ways agree:
a response has the value that completes it or none, until an edit of the entry
point touches the field, and then the last such edit decides.
-/

variable {σ : Type}

/-! ### Standard values -/

/-- The fields that every answer carries. -/
def carriedNames : List FieldName :=
  [.server, .allowOrigin, .acceptCharset, .requestId]

/-- The fields that parts of the server set for themselves. -/
def ownNames : List FieldName :=
  [.allow, .connection, .contentLength, .contentType, .location, .socketAccept,
    .socketProtocol, .upgrade]

theorem ne_of_carried {own name : FieldName} (self : own ∈ ownNames)
    (among : name ∈ carriedNames) : own ≠ name := by
  have apart : ∀ own ∈ ownNames, ∀ name ∈ carriedNames, own ≠ name := by decide
  exact apart own self name among

/-- The value that a field has on every answer unless an entry point left
another: the server name and the encoding of the configuration, or fixed texts
where these are no legal values, any origin, and the id of the request. -/
inductive StandardValue (config : Config) (incoming : Incoming) (fresh : FieldValue) :
    FieldName → FieldValue → Prop where
  | server (value : FieldValue) (held : value.bytes = encode config.http.serverName) :
      StandardValue config incoming fresh .server value
  | serverFallback (value : FieldValue) (illegal : ¬ IsLegalValue config.http.serverName)
      (held : value.bytes = encode "websrv") : StandardValue config incoming fresh .server value
  | origin (value : FieldValue) (held : value.bytes = encode "*") :
      StandardValue config incoming fresh .allowOrigin value
  | charset (value : FieldValue) (held : value.bytes = encode config.http.encoding) :
      StandardValue config incoming fresh .acceptCharset value
  | charsetFallback (value : FieldValue) (illegal : ¬ IsLegalValue config.http.encoding)
      (held : value.bytes = encode "utf-8") :
      StandardValue config incoming fresh .acceptCharset value
  | ownId (value : FieldValue) (sent : incoming.fields.get? .requestId = some value) :
      StandardValue config incoming fresh .requestId value
  | freshId (unsent : incoming.fields.get? .requestId = none) :
      StandardValue config incoming fresh .requestId fresh

theorem StandardValue.among {config : Config} {incoming : Incoming} {fresh : FieldValue}
    {name : FieldName} {standard : FieldValue}
    (carried : StandardValue config incoming fresh name standard) : name ∈ carriedNames := by
  cases carried <;> decide

/-- The fields that complete an answer, with their values. -/
def Router.carried (router : Router σ) (requestId : FieldValue) : List (FieldName × FieldValue) :=
  [(.server, router.serverName), (.allowOrigin, .ofTexts ["*"]),
    (.acceptCharset, router.charset), (.requestId, requestId)]

theorem addCommon_eq (router : Router σ) (requestId : FieldValue) (fields : Fields) :
    router.addCommon requestId fields = (router.carried requestId).foldl
      (fun fields entry => fields.setIfAbsent entry.1 entry.2) fields := by
  simp only [Router.addCommon, Router.carried, List.foldl_cons, List.foldl_nil]

/-- A text is taken where it is legal, and else the text that stands in for it. -/
theorem ofTexts_eq_iff {text fallback : String} (legal : IsLegalValue fallback)
    (value : FieldValue) :
    FieldValue.ofTexts [text, fallback] = value ↔
      value.bytes = encode text ∨ (¬ IsLegalValue text ∧ value.bytes = encode fallback) := by
  obtain ⟨other, shown⟩ := Option.isSome_iff_exists.1 legal
  rw [← ofText?_eq_some_iff, ← ofText?_eq_some_iff, shown]
  unfold FieldValue.ofTexts IsLegalValue
  cases found : FieldValue.ofText? text with
  | none => simp [found, shown]
  | some taken => simp [found]

theorem standardValue_iff {server : Server σ} {router : Router σ}
    (started : Router.ofServer? server = some router) (incoming : Incoming) (fresh : FieldValue)
    (name : FieldName) (value : FieldValue) :
    StandardValue server.config incoming fresh name value ↔
      (name, value) ∈ router.carried (Router.requestId incoming.fields fresh) := by
  obtain ⟨interval, -, rfl⟩ := Option.map_eq_some_iff.1 started
  have websrv : IsLegalValue "websrv" := (by decide : (FieldValue.ofText? "websrv").isSome = true)
  have utf8 : IsLegalValue "utf-8" := (by decide : (FieldValue.ofText? "utf-8").isSome = true)
  have star : (FieldValue.ofTexts ["*"]).bytes = encode "*" := by decide
  simp only [Router.carried, List.mem_cons, Prod.mk.injEq, List.not_mem_nil, or_false]
  constructor
  · intro standard
    cases standard with
    | server value held => exact .inl ⟨rfl, ((ofTexts_eq_iff websrv value).2 (.inl held)).symm⟩
    | serverFallback value illegal held =>
        exact .inl ⟨rfl, ((ofTexts_eq_iff websrv value).2 (.inr ⟨illegal, held⟩)).symm⟩
    | origin value held =>
        have same : FieldValue.ofText? "*" = some value := ofText?_eq_some_iff.2 held
        exact .inr (.inl ⟨rfl, Option.some.inj (same.symm.trans (ofText?_eq_some_iff.2 star))⟩)
    | charset value held =>
        exact .inr (.inr (.inl ⟨rfl, ((ofTexts_eq_iff utf8 value).2 (.inl held)).symm⟩))
    | charsetFallback value illegal held =>
        exact .inr (.inr (.inl ⟨rfl, ((ofTexts_eq_iff utf8 value).2 (.inr ⟨illegal, held⟩)).symm⟩))
    | ownId value sent => exact .inr (.inr (.inr ⟨rfl, by simp [Router.requestId, sent]⟩))
    | freshId unsent => exact .inr (.inr (.inr ⟨rfl, by simp [Router.requestId, unsent]⟩))
  · rintro (⟨rfl, taken⟩ | ⟨rfl, taken⟩ | ⟨rfl, taken⟩ | ⟨rfl, taken⟩)
    · rcases (ofTexts_eq_iff websrv value).1 taken.symm with held | ⟨illegal, held⟩
      · exact .server value held
      · exact .serverFallback value illegal held
    · exact .origin value (taken ▸ star)
    · rcases (ofTexts_eq_iff utf8 value).1 taken.symm with held | ⟨illegal, held⟩
      · exact .charset value held
      · exact .charsetFallback value illegal held
    · subst taken
      unfold Router.requestId
      cases sent : incoming.fields.get? .requestId with
      | some own => exact .ownId own sent
      | none => exact .freshId sent

/-- What completes an answer completes each of its fields once. -/
theorem values_addAll {entries : List (FieldName × FieldValue)}
    (distinct : (entries.map (·.1)).Nodup) {name : FieldName} {standard : FieldValue}
    (member : (name, standard) ∈ entries) {fields : Fields} {left : Option FieldValue}
    (settles : Settles fields name standard left) :
    (entries.foldl (fun fields entry => fields.setIfAbsent entry.1 entry.2) fields).values name =
      [left.getD standard] := by
  have others : ∀ (rest : List (FieldName × FieldValue)) (fields : Fields),
      name ∉ rest.map (·.1) →
      (rest.foldl (fun fields entry => fields.setIfAbsent entry.1 entry.2) fields).values name =
        fields.values name := by
    intro rest
    induction rest with
    | nil => exact fun fields _ => rfl
    | cons entry rest ih =>
        intro fields absent
        rw [List.map_cons, List.mem_cons, not_or] at absent
        obtain ⟨apart, absent⟩ := absent
        exact (ih _ absent).trans (values_setIfAbsent_of_ne _ _ (Ne.symm apart))
  induction entries generalizing fields with
  | nil => cases member
  | cons entry rest ih =>
      obtain ⟨absent, distinct⟩ := List.nodup_cons.1 distinct
      rcases List.mem_cons.1 member with rfl | later
      · exact (others rest _ absent).trans (values_setIfAbsent_of_settles settles)
      · have apart : entry.1 ≠ name := by
          rintro rfl
          exact absent (List.mem_map.2 ⟨_, later, rfl⟩)
        apply ih distinct later
        rw [Settles, values_setIfAbsent_of_ne _ _ apart]
        exact settles

/-- A reply leaves the server with the standard value of a field, unless it has
another one of what was left there. -/
theorem values_finish_of_settles {server : Server σ} {router : Router σ}
    (started : Router.ofServer? server = some router) {incoming : Incoming} {fresh : FieldValue}
    {name : FieldName} {standard : FieldValue}
    (carried : StandardValue server.config incoming fresh name standard) {reply : Reply}
    {left : Option FieldValue} (settles : Settles reply.fields name standard left) :
    (router.finish incoming fresh reply).fields.values name = [left.getD standard] := by
  have member := (standardValue_iff started incoming fresh name standard).1 carried
  have distinct : ((router.carried (Router.requestId incoming.fields fresh)).map (·.1)).Nodup :=
    (by decide : carriedNames.Nodup)
  have among : name ∈ carriedNames := carried.among
  have apart : FieldName.contentLength ≠ name := ne_of_carried (by decide) among
  have framed : (Router.frame incoming.method reply).fields.values name =
      reply.fields.values name := by
    unfold Router.frame
    split
    · rfl
    · exact values_setIfAbsent_of_ne _ _ apart
  unfold Router.finish
  dsimp only
  rw [addCommon_eq]
  apply values_addAll distinct member
  rw [Settles, framed]
  exact settles

/-! ### Replies before they are completed -/

/-- The request reaches an entry point, which runs on what it sees of it. -/
structure Reaches (server : Server σ) (files : FileSystem) (incoming : Incoming)
    (run : EntryPoint σ) (request : Request) : Prop where
  plain : isUpgradeRequest incoming.fields = false
  enters : ∃ service path method content,
    server.route files incoming = .entry service path method run ∧
      readContent server.config.limits.maxBodySize method incoming = .ok content ∧
      request = Server.entryRequest method incoming content

/-- What an entry point left for a name, if the request reached one: what is left
by the edits that it made its response by. -/
inductive LeftByEntry (server : Server σ) (files : FileSystem) (incoming : Incoming) (state : σ)
    (name : FieldName) : Option FieldValue → Prop where
  | elsewhere (unreached : ∀ run request, ¬ Reaches server files incoming run request) :
      LeftByEntry server files incoming state name none
  | edited (run : EntryPoint σ) (request : Request) (table : MimeTable) (edits : List Edit)
      (reached : Reaches server files incoming run request)
      (made : (run request server.entryResponse state).1 =
        Edit.applyAll table edits server.entryResponse) :
      LeftByEntry server files incoming state name (Edit.leaves name edits)

/-- Every entry point makes its response by edits. -/
def Server.AnswersByEdits (server : Server σ) : Prop :=
  ∀ service ∈ server.services, ∀ entry ∈ service.entries, ∀ request response state,
    ∃ table edits, (entry.2 request response state).1 = Edit.applyAll table edits response

section Replies

variable {name : FieldName} (among : name ∈ carriedNames)

include among

theorem values_plainReply (status : Status) (text : String) :
    (plainReply status text).fields.values name = [] :=
  values_setValue_of_ne Fields.empty (ne_of_carried (by decide) among) _

theorem values_typedReply (status : Status) (contentType : String) (body : Bytes) :
    (typedReply status contentType body).fields.values name = [] := by
  unfold typedReply
  split
  · exact (Fields.values_set Fields.empty .contentType name _).trans
      (if_neg (ne_of_carried (by decide) among))
  · exact values_plainReply among _ _

theorem values_answerMethodNotAllowed :
    Server.answerMethodNotAllowed.fields.values name = [] :=
  values_setValue_of_ne Fields.empty (ne_of_carried (by decide) among) _

theorem values_answerUnmatched (server : Server σ) (files : FileSystem) :
    (server.answerUnmatched files).fields.values name = [] := by
  rw [answerUnmatched_eq]
  exact values_typedReply among _ _ _

theorem values_answerResource (server : Server σ) (files : FileSystem) (location : Location) :
    (server.answerResource files location).fields.values name = [] := by
  unfold Server.answerResource
  split
  · exact values_typedReply among _ _ _
  · exact values_plainReply among _ _

theorem values_acceptReply (key : FieldValue) (protocol : String) (offered : Bool) :
    (acceptReply key protocol offered).fields.values name = [] := by
  have apart : ∀ own ∈ ownNames, own ≠ name := fun own self => ne_of_carried self among
  have accepted : (((Fields.empty.setValue .connection "upgrade").setValue .upgrade
      "websocket").setValue .socketAccept (acceptKey key.bytes)).values name = [] := by
    rw [values_setValue_of_ne _ (apart _ (by decide)),
      values_setValue_of_ne _ (apart _ (by decide)),
      values_setValue_of_ne _ (apart _ (by decide))]
    rfl
  unfold acceptReply
  dsimp only
  cases offered with
  | false =>
      rw [if_neg Bool.false_ne_true]
      exact accepted
  | true =>
      rw [if_pos rfl, values_setValue_of_ne _ (apart _ (by decide))]
      exact accepted

/-- Only an entry point can have put one of these fields on a reply. -/
theorem values_dispatch_of_unreached {router : Router σ} {files : FileSystem}
    {incoming : Incoming}
    (unreached : ∀ run request, ¬ Reaches router.server files incoming run request)
    (world : World σ) : (router.dispatch files incoming world).reply.fields.values name = [] := by
  unfold Router.dispatch
  cases upgrades : isUpgradeRequest incoming.fields with
  | true =>
      simp only [if_true]
      have outcome := upgrade_outcome router incoming
      generalize router.server.upgrade incoming = upgrade at outcome
      cases outcome with
      | rejected status message lacking refused => exact values_plainReply among _ _
      | accepted protocol key handler chosen form found => exact values_acceptReply among _ _ _
  | false =>
      simp only [Bool.false_eq_true, if_false]
      cases routed : router.server.route files incoming with
      | methodNotAllowed =>
          simp only [Server.answer, routed]
          exact values_answerMethodNotAllowed among
      | undecodable =>
          simp only [Server.answer, routed]
          exact values_answerUnmatched among _ _
      | resource location =>
          simp only [Server.answer, routed]
          exact values_answerResource among _ _ _
      | unmatched =>
          simp only [Server.answer, routed]
          exact values_answerUnmatched among _ _
      | entry service path method run =>
          cases checked : readContent router.server.config.limits.maxBodySize method incoming with
          | error fault =>
              simp only [Server.answer, routed, Server.answerEntry, checked]
              exact values_plainReply among _ _
          | ok content =>
              exact absurd ⟨upgrades, service, path, method, content, routed, checked, rfl⟩
                (unreached run _)

end Replies

/-! ### Replies of entry points -/

/-- The response that an entry point starts from has the standard values that it can
have, and nothing else of these fields. -/
theorem settles_entryResponse {server : Server σ} {incoming : Incoming} {fresh : FieldValue}
    {name : FieldName} {standard : FieldValue}
    (carried : StandardValue server.config incoming fresh name standard) :
    Settles server.entryResponse.fields name standard none := by
  have made : server.entryResponse.fields =
      (Response.initial.fields.setValue .server server.config.http.serverName).setValue
        .acceptCharset server.config.http.encoding := rfl
  have start : ∀ name ≠ .acceptCharset, Response.initial.fields.values name = [] :=
    fun name apart => values_setValue_of_ne Fields.empty (Ne.symm apart) _
  have missing : ∀ name ≠ .server, name ≠ .acceptCharset →
      server.entryResponse.fields.values name = [] := by
    intro name server charset
    rw [made, values_setValue_of_ne _ (Ne.symm charset), values_setValue_of_ne _ (Ne.symm server),
      start name charset]
  cases carried with
  | server value held =>
      left
      rw [made, values_setValue_of_ne _ (by decide), values_setValue (ofText?_eq_some_iff.2 held)]
      rfl
  | serverFallback value illegal held =>
      right
      rw [made, values_setValue_of_ne _ (by decide),
        setValue_of_illegal (Option.not_isSome_iff_eq_none.1 illegal)]
      exact ⟨rfl, start _ (by decide)⟩
  | origin value held => exact Or.inr ⟨rfl, missing _ (by decide) (by decide)⟩
  | charset value held =>
      left
      rw [made, values_setValue (ofText?_eq_some_iff.2 held)]
      rfl
  | charsetFallback value illegal held =>
      left
      rw [made, setValue_of_illegal (Option.not_isSome_iff_eq_none.1 illegal),
        values_setValue_of_ne _ (by decide)]
      exact values_setValue (ofText?_eq_some_iff.2 held) Fields.empty _ _
  | ownId value sent => exact Or.inr ⟨rfl, missing _ (by decide) (by decide)⟩
  | freshId unsent => exact Or.inr ⟨rfl, missing _ (by decide) (by decide)⟩

/-- The entry point that a request is routed to is one of the server's. -/
theorem exists_entry_of_route {server : Server σ} {files : FileSystem} {incoming : Incoming}
    {service path : String} {method : Method} {run : EntryPoint σ}
    (routed : server.route files incoming = .entry service path method run) :
    ∃ mounted ∈ server.services, ∃ key, (key, run) ∈ mounted.entries := by
  cases route_eq_iff_routed.1 routed with
  | entry _ decoded _ _ _ served text noFile found =>
      obtain ⟨-, mounted, registered, lookup⟩ := entry?_eq_some_iff_split.1 found
      obtain ⟨before, after, split, -⟩ := List.lookup_eq_some_iff.1 lookup
      exact ⟨mounted, List.mem_of_find?_eq_some registered, (method, path), by simp [split]⟩

/-- Each of these fields has one standard value. -/
theorem exists_standardValue {server : Server σ} {router : Router σ}
    (started : Router.ofServer? server = some router) (incoming : Incoming) (fresh : FieldValue)
    {name : FieldName} (among : name ∈ carriedNames) :
    ∃ standard, ∀ value,
      StandardValue server.config incoming fresh name value ↔ value = standard := by
  have distinct : ((router.carried (Router.requestId incoming.fields fresh)).map (·.1)).Nodup :=
    (by decide : carriedNames.Nodup)
  obtain ⟨⟨_, standard⟩, member, rfl⟩ := List.mem_map.1
    (show name ∈ (router.carried (Router.requestId incoming.fields fresh)).map (·.1) from among)
  refine ⟨standard, fun value => ?_⟩
  rw [standardValue_iff started, ← lookup_eq_some_iff_mem distinct,
    (lookup_eq_some_iff_mem distinct).2 member, Option.some.injEq, eq_comm]

section Dispatches

variable {router : Router σ} {files : FileSystem} {incoming : Incoming}

/-- The reply of a server is settled on what an entry point left. -/
theorem settles_dispatch {fresh : FieldValue} {world : World σ} {name : FieldName}
    {standard : FieldValue} {left : Option FieldValue}
    (carried : StandardValue router.server.config incoming fresh name standard)
    (leaves : LeftByEntry router.server files incoming world.app name left) :
    Settles (router.dispatch files incoming world).reply.fields name standard left := by
  have among := carried.among
  cases leaves with
  | elsewhere unreached =>
      exact Or.inr ⟨rfl, values_dispatch_of_unreached among unreached world⟩
  | edited run request table edits reached made =>
      have free : IsFree name :=
        ⟨(ne_of_carried (by decide) among).symm, (ne_of_carried (by decide) among).symm⟩
      have settled := settles_applyAll free table edits (settles_entryResponse carried)
      have apart : FieldName.contentLength ≠ name := ne_of_carried (by decide) among
      obtain ⟨plain, service, path, method, content, routed, read, rfl⟩ := reached
      have reply : (router.dispatch files incoming world).reply =
          (Edit.applyAll table edits router.server.entryResponse).reply := by
        rw [← made]
        simp [Router.dispatch, plain, Server.answer, Server.answerEntry, routed, read]
      rw [Settles, reply, Response.reply, Fields.setContentLength, Fields.values_set,
        if_neg apart]
      exact settled

/-- It is known what was left. -/
theorem exists_leftByEntry (edited : router.server.AnswersByEdits) (state : σ)
    (name : FieldName) : ∃ left, LeftByEntry router.server files incoming state name left := by
  by_cases reached : ∃ run request, Reaches router.server files incoming run request
  · obtain ⟨run, request, reaches⟩ := reached
    obtain ⟨service, path, method, content, routed, -, -⟩ := reaches.enters
    obtain ⟨mounted, among, key, member⟩ := exists_entry_of_route routed
    obtain ⟨table, edits, made⟩ :=
      edited mounted among (key, run) member request router.server.entryResponse state
    exact ⟨_, .edited run request table edits reaches made⟩
  · exact ⟨_, .elsewhere fun run request reaches => reached ⟨run, request, reaches⟩⟩

end Dispatches

/-- Every answer of a started server, whoever made it, carries each of these fields
once, with the value that an entry point left there, or else with the standard
value of the field, of which there is one for all routes. -/
theorem common_headers_on_every_answer {server : Server σ} {router : Router σ}
    (started : Router.ofServer? server = some router) (edited : server.AnswersByEdits)
    (files : FileSystem) (incoming : Incoming) (fresh : FieldValue) (world : World σ) :
    ∀ name ∈ carriedNames,
      (∃ left, LeftByEntry server files incoming world.app name left) ∧
      ∃ standard,
        (∀ value, StandardValue server.config incoming fresh name value ↔ value = standard) ∧
        ∀ left, LeftByEntry server files incoming world.app name left →
          (router.respond files incoming fresh world).1.fields.values name =
            [left.getD standard] := by
  intro name among
  obtain ⟨standard, only⟩ := exists_standardValue started incoming fresh among
  have carried := (only standard).2 rfl
  obtain rfl : router.server = server := by
    obtain ⟨interval, -, rfl⟩ := Option.map_eq_some_iff.1 started
    rfl
  refine ⟨exists_leftByEntry edited world.app name, standard, only, fun left leaves => ?_⟩
  exact values_finish_of_settles started carried (settles_dispatch carried leaves)

/-- With a name and an encoding that are no legal values, an entry point that names
its own server and takes the charset away gets the fallback for the charset. -/
theorem common_headers_on_every_answer_script :
    let edits : List Edit := [.header "Server" "mine", .remove "Accept-Charset"]
    let service : Service Unit :=
      { name := "s", entries := [((.get, "x"), scriptEntry (edits.map .edit))] }
    let http := { Config.standard.http with serverName := "bad\nname", encoding := "bad\nenc" }
    let server : Server Unit :=
      { Server.ofConfig { Config.standard with http := http } with services := [service] }
    let incoming := Incoming.bare "GET" "/s/x"
    server.AnswersByEdits ∧
      ∃ router, Router.ofServer? server = some router ∧
        let answer := (router.respond default incoming (.ofTexts ["id"]) (World.initial ())).1
        answer.fields.values .server = [.ofTexts ["mine"]] ∧
          answer.fields.values .acceptCharset = [.ofTexts ["utf-8"]] := by
  intro edits service http server incoming
  have edited : server.AnswersByEdits := by
    intro mounted among entry member request response state
    obtain rfl := List.mem_singleton.1 among
    obtain rfl := List.mem_singleton.1 member
    exact ⟨_, _, rfl⟩
  have starts : (Router.ofServer? server).isSome = true := by decide +kernel
  obtain ⟨router, started⟩ := Option.isSome_iff_exists.1 starts
  have routed : server.route default incoming =
      .entry "s" "x" .get (scriptEntry (edits.map .edit)) :=
    route_of_routed (.entry .get "/s/x" "s" "x" _ rfl (by decide) (fun _ => rfl)
      (entry?_eq_some_iff_split.2 ⟨by decide, service, rfl, rfl⟩))
  have reached : Reaches server default incoming (scriptEntry (edits.map .edit))
      (Server.entryRequest .get incoming []) :=
    ⟨by decide, "s", "x", .get, [], routed, rfl, rfl⟩
  have left : ∀ name,
      LeftByEntry server default incoming (World.initial ()).app name (Edit.leaves name edits) :=
    fun name => .edited _ _ .standard edits reached rfl
  have common := common_headers_on_every_answer started edited default incoming (.ofTexts ["id"])
    (World.initial ())
  obtain ⟨-, named, -, values⟩ := common .server (by decide)
  obtain ⟨-, charset, standard, fallback⟩ := common .acceptCharset (by decide)
  refine ⟨edited, router, started, ?_, ?_⟩
  · have own : Edit.leaves .server edits = some (.ofTexts ["mine"]) := by decide
    rw [values _ (left _), own]
    rfl
  · have removed : Edit.leaves .acceptCharset edits = none := by decide
    have utf8 : charset = .ofTexts ["utf-8"] :=
      ((standard _).1 (.charsetFallback _ (by unfold IsLegalValue; decide) (by decide))).symm
    rw [fallback _ (left _), removed, utf8]
    rfl

end WebHost
