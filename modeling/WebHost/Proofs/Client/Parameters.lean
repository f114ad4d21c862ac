/-
Module: WebHost.Proofs.Client.Parameters
Purpose: The parameters of a call arrive at the entry point.
Main exports:
  ClientCall, ClientCall.HandsOver, handsOver_iff, query_of_handsOver,
  parameters_reach_entry_points
-/
import WebHost.Proofs.Client.Delivery
import WebHost.Proofs.Url.Form

namespace WebHost

open Text

/-!
A client writes its parameters into the query of a URL, after what stands there
already; a network hands the query on; and the server cuts it into the arguments
of an entry point.  No call of a client leaves the query in another state, be it
one with a body, a form or a file.
-/

/-! ### Calls with options -/

/-- The calls that a client can make with options. -/
inductive ClientCall where
  | get (url : String)
  | delete (url : String)
  | post (files : FileSystem) (url : String) (body : Bytes)
  | put (url : String) (body : Bytes)
  | putFile (files : FileSystem) (url path : String)
  | built (request : ClientRequest) (base : String)

namespace ClientCall

/-- The text that the call has for a URL. -/
def url : ClientCall → String
  | .get url => url
  | .delete url => url
  | .post _ url _ => url
  | .put url _ => url
  | .putFile _ url _ => url
  | .built request base => request.urlUnder base

/-- Make the call. -/
def make (call : ClientCall) (options : RequestOptions) (network : Network) :
    Except ClientError ClientResponse :=
  match call with
  | .get url => Client.get network url options
  | .delete url => Client.delete network url options
  | .post files url body => Client.post network files url body options
  | .put url body => Client.put network url body options
  | .putFile files url path => Client.putFile network files url path options
  | .built request base => sendRequest network request base options

/-- The call hands this to every network, and comes back with what the network makes
of it. -/
def HandsOver (call : ClientCall) (options : RequestOptions) (outgoing : Outgoing) : Prop :=
  ∀ network : Network, call.make options network = (network outgoing).mapError .http

/-- The draft that the call executes. -/
def draft (call : ClientCall) (options : RequestOptions) : Except ClientError Draft :=
  match call with
  | .get url => prepare .get url options
  | .delete url => prepare .delete url options
  | .post files url body => do
      let draft ← prepare .post url options
      if options.hasForm then
        let form ← formBody files options
        let typed :=
          draft.addHeader "content-type" ("multipart/form-data; boundary=" ++ formBoundary)
        return typed.withBody form
      else
        return draft.withBody body
  | .put url body => do return (← prepare .put url options).withBody body
  | .putFile files url path => do
      let content ← (files.read path).mapError ClientError.file
      return (← prepare .put url options).withBody content
  | .built request base => request.draft base options

/-- To make a call is to draft it and to execute the draft. -/
theorem make_eq (call : ClientCall) (options : RequestOptions) (network : Network) :
    call.make options network = call.draft options >>= execute network := by
  cases call with
  | get url => rfl
  | delete url => rfl
  | post files url body =>
      simp only [make, draft, Client.post, bind_assoc]
      congr 1
      funext start
      by_cases form : options.hasForm = true
      · simp only [form, if_true, bind_assoc, pure_bind]
      · simp only [form, if_false, pure_bind, Bool.false_eq_true]
  | put url body =>
      unfold make draft Client.put
      simp only [bind_assoc, pure_bind]
  | putFile files url path =>
      unfold make draft Client.putFile Client.put
      simp only [bind_assoc, pure_bind]
  | built request base => rfl

end ClientCall

/-! ### The URL of a draft -/

/-- The draft is for the URL that a text writes, with the parameters at the end of its
query. -/
def Draft.IsFor (draft : Draft) (url : String) (options : RequestOptions) : Prop :=
  ∃ parsed, normalizeUrl url = .ok parsed ∧
    draft.outgoing.url.query = appendPairs parsed.query options.parameters

section Drafts

variable {draft : Draft} {url : String} {options : RequestOptions}

theorem Draft.url_addHeader (draft : Draft) (name value : String) :
    (draft.addHeader name value).outgoing.url = draft.outgoing.url := by
  unfold Draft.addHeader
  split
  · rfl
  · rfl

theorem Draft.url_addHeaders (draft : Draft) (headers : List (String × String)) :
    (draft.addHeaders headers).outgoing.url = draft.outgoing.url := by
  unfold Draft.addHeaders
  induction headers generalizing draft with
  | nil => rfl
  | cons header rest ih => exact (ih _).trans (draft.url_addHeader header.1 header.2)

theorem Draft.IsFor.addHeader (target : draft.IsFor url options) (name value : String) :
    (draft.addHeader name value).IsFor url options := by
  unfold Draft.IsFor
  rw [draft.url_addHeader name value]
  exact target

theorem Draft.IsFor.withBody (target : draft.IsFor url options) (body : Bytes) :
    (draft.withBody body).IsFor url options := target

theorem isFor_prepare {method : Method} (prepared : prepare method url options = .ok draft) :
    draft.IsFor url options := by
  unfold prepare at prepared
  obtain ⟨-, -, prepared⟩ := bind_eq_ok_iff.1 prepared
  obtain ⟨parsed, target, prepared⟩ := bind_eq_ok_iff.1 prepared
  -- The name of the user agent is settled before the URL is used.
  split at prepared
  · obtain ⟨agent, -, drafted⟩ := bind_eq_ok_iff.1 prepared
    cases drafted
    exact ⟨parsed, target, congrArg Url.query (Draft.url_addHeaders _ _)⟩
  · split at prepared
    · obtain ⟨agent, -, drafted⟩ := bind_eq_ok_iff.1 prepared
      cases drafted
      exact ⟨parsed, target, congrArg Url.query (Draft.url_addHeaders _ _)⟩
    · cases prepared

theorem isFor_requestDraft {request : ClientRequest} {base : String}
    (drafted : request.draft base options = .ok draft) :
    draft.IsFor (request.urlUnder base) options := by
  unfold ClientRequest.draft at drafted
  obtain ⟨start, prepared, drafted⟩ := bind_eq_ok_iff.1 drafted
  have target := isFor_prepare prepared
  have typed : ∀ contentType,
      (start.addHeader "content-type" contentType).IsFor (request.urlUnder base) options :=
    fun contentType => target.addHeader "content-type" contentType
  cases drafted
  cases request.contentType? with
  | none =>
      split
      · exact target.withBody _
      · exact target
  | some contentType =>
      split
      · exact (typed contentType).withBody _
      · exact typed contentType

/-- Whatever the call, its draft is for its URL. -/
theorem ClientCall.isFor_draft {call : ClientCall} (drafted : call.draft options = .ok draft) :
    draft.IsFor call.url options := by
  cases call with
  | get url => exact isFor_prepare drafted
  | delete url => exact isFor_prepare drafted
  | post files url body =>
      obtain ⟨start, prepared, drafted⟩ := bind_eq_ok_iff.1 drafted
      have target := isFor_prepare prepared
      split at drafted
      · obtain ⟨form, -, drafted⟩ := bind_eq_ok_iff.1 drafted
        cases drafted
        exact (target.addHeader _ _).withBody form
      · cases drafted
        exact target.withBody body
  | put url body =>
      obtain ⟨start, prepared, drafted⟩ := bind_eq_ok_iff.1 drafted
      cases drafted
      exact (isFor_prepare prepared).withBody body
  | putFile files url path =>
      obtain ⟨content, -, drafted⟩ := bind_eq_ok_iff.1 drafted
      obtain ⟨start, prepared, drafted⟩ := bind_eq_ok_iff.1 drafted
      cases drafted
      exact (isFor_prepare prepared).withBody content
  | built request base => exact isFor_requestDraft drafted

end Drafts

/-- What is handed over is the draft, if nothing is wrong with it. -/
theorem handsOver_iff {call : ClientCall} {options : RequestOptions} {outgoing : Outgoing} :
    call.HandsOver options outgoing ↔
      call.draft options = .ok { outgoing := outgoing, broken := false } ∧
        isSendable outgoing.url = true := by
  unfold ClientCall.HandsOver
  simp only [ClientCall.make_eq]
  exact execute_iff

/-- The query that is handed over is that of the URL with the parameters at its end. -/
theorem query_of_handsOver {call : ClientCall} {options : RequestOptions} {outgoing : Outgoing}
    (sent : call.HandsOver options outgoing) :
    ∃ parsed, normalizeUrl call.url = .ok parsed ∧
      outgoing.url.query = appendPairs parsed.query options.parameters :=
  ClientCall.isFor_draft (handsOver_iff.1 sent).1

/-! ### Arrival -/

/-- Parameters in the order of their names have different names. -/
theorem nodup_of_ordered {parameters : List (String × String)}
    (ordered : parameters.Pairwise fun left right => encode left.1 < encode right.1) :
    (parameters.map (·.1)).Nodup := by
  refine List.pairwise_map.2 (ordered.imp fun {left right} before same => ?_)
  rw [same] at before
  exact List.lt_irrefl _ before

/-- Parameters in the order of their names are written one fragment each, behind the
fragments of the URL; an entry point that is reached with that query gets all of
these as its arguments, in that order; each is read back as the parameter that it
was; and without a fragment of the URL, an argument is found just under the
encoded names, where it is the encoded value. -/
theorem parameters_reach_entry_points (call : ClientCall) (options : RequestOptions)
    (ordered : options.parameters.Pairwise fun left right => encode left.1 < encode right.1)
    {outgoing : Outgoing} (sent : call.HandsOver options outgoing) :
    ∃ parsed own, normalizeUrl call.url = .ok parsed ∧ FragmentsOf parsed.query own ∧
      (options.parameters.map fun pair => formDecodePair (formPair pair.1 pair.2)) =
        options.parameters ∧
      ∀ {σ : Type} (router : Router σ) (files : FileSystem) (incoming : Incoming)
        (fresh : FieldValue) (world : World σ) (service path : String) (method : Method)
        (run : EntryPoint σ) (content : Bytes),
        incoming.target.query = outgoing.url.query →
        isUpgradeRequest incoming.fields = false →
        router.server.route files incoming = .entry service path method run →
        BodyGate router.server.config.limits.maxBodySize method incoming (.ok content) →
        ∃ seen, HandledOnce router files incoming fresh world service path run seen ∧
          seen.arguments =
            own ++ options.parameters.map (fun pair => formPair pair.1 pair.2) ∧
          (own = [] →
            (∀ pair ∈ options.parameters,
              seen.argument? (formEncode pair.1) = some (formEncode pair.2)) ∧
            ∀ key, (∀ pair ∈ options.parameters, formEncode pair.1 ≠ key) →
              seen.argument? key = none) := by
  obtain ⟨parsed, target, query⟩ := query_of_handsOver sent
  refine ⟨parsed, Request.splitQuery parsed.query, target, splitQuery_eq_iff.1 rfl, ?_, ?_⟩
  · simp only [formDecodePair_formPair]
    exact List.map_id _
  intro σ router files incoming fresh world service path method run content carried plain routed
    gate
  have read := readContent_eq_ok_iff.2 gate
  have arguments : Request.splitQuery incoming.target.query =
      Request.splitQuery parsed.query ++
        options.parameters.map (fun pair => formPair pair.1 pair.2) := by
    rw [carried, query, splitQuery_appendPairs]
  refine ⟨_, handledOnce_of_readContent plain routed read fresh world, arguments, fun bare => ?_⟩
  rw [bare, List.nil_append] at arguments
  constructor
  · intro pair member
    rw [Request.argument?, Server.entryRequest, arguments]
    exact fragmentValue?_of_mem (nodup_of_ordered ordered) member
  · intro key unnamed
    rw [Request.argument?, Server.entryRequest, arguments]
    exact fragmentValue?_of_unnamed unnamed

/-- Parameters that are full of signs reach the demonstration server. -/
theorem parameters_reach_entry_points_signs :
    let router : Router Demo := .standard (Server.ofConfig default).addDemo
    let call := ClientCall.get "127.0.0.1:8080/webservice/get"
    let options : RequestOptions :=
      { RequestOptions.standard with parameters := [("", "="), ("a&b", "c d"), ("é", "%")] }
    ∃ outgoing seen, call.HandsOver options outgoing ∧
      HandledOnce router default (outgoing.incoming none) (.ofTexts []) (World.initial Demo.initial)
        "webservice" "get" demoGet seen ∧
      seen.arguments = ["=%3D", "a%26b=c+d", "%C3%A9=%25"] ∧
      seen.argument? "a%26b" = some "c+d" ∧ seen.argument? "a" = none := by
  intro router call options
  have drafted : (call.draft options).toOption.any (fun draft =>
      !draft.broken && isSendable draft.outgoing.url &&
        draft.outgoing.method == .get && draft.outgoing.url.path == "/webservice/get" &&
        !isUpgradeRequest (draft.outgoing.incoming none).fields) = true := by decide +kernel
  obtain ⟨outgoing, sent, method, target, plain⟩ : ∃ outgoing, call.HandsOver options outgoing ∧
      outgoing.method = .get ∧ outgoing.url.path = "/webservice/get" ∧
      isUpgradeRequest (outgoing.incoming none).fields = false := by
    cases written : call.draft options with
    | error reason => simp [written, Except.toOption] at drafted
    | ok draft =>
        obtain ⟨outgoing, broken⟩ := draft
        simp only [written, Except.toOption, Option.any_some, Bool.and_eq_true,
          Bool.not_eq_true', beq_iff_eq] at drafted
        obtain ⟨⟨⟨⟨rfl, sendable⟩, method⟩, target⟩, plain⟩ := drafted
        exact ⟨outgoing, handsOver_iff.2 ⟨written, sendable⟩, method, target, plain⟩
  have bare : (normalizeUrl call.url).toOption.map (·.query) = some none := by decide +kernel
  have path : (outgoing.incoming none).target.path = "/webservice/get" := target
  have routed : router.server.route default (outgoing.incoming none) =
      .entry "webservice" "get" .get demoGet :=
    route_of_routed (.entry .get "/webservice/get" "webservice" "get" demoGet
      (congrArg Method.name method) (by rw [path]; decide) (fun _ => rfl)
      (entry?_eq_some_iff_split.2 ⟨by decide, demoService "webservice" "", rfl, rfl⟩))
  have ordered : options.parameters.Pairwise fun left right => encode left.1 < encode right.1 := by
    decide
  obtain ⟨parsed, own, found, fragments, -, arrives⟩ :=
    parameters_reach_entry_points call options ordered sent
  obtain ⟨seen, handled, arguments, lookups⟩ := arrives router default (outgoing.incoming none)
    (.ofTexts []) (World.initial Demo.initial) _ _ _ _ [] rfl plain routed (.noBody (.inl rfl))
  have empty : own = [] := by
    rw [found] at bare
    have unasked : parsed.query = none := Option.some.inj bare
    rwa [unasked] at fragments
  obtain ⟨named, unnamed⟩ := lookups empty
  refine ⟨outgoing, seen, sent, handled, ?_, ?_, ?_⟩
  · rw [arguments, empty]
    decide +kernel
  · exact named ("a&b", "c d") (by decide)
  · exact unnamed "a" (by decide +kernel)

end WebHost
