/-
Module: WebHost.Proofs.Client.Delivery
Purpose: The calls of a client arrive at an entry point as they were built.
Main exports:
  ClientRequest.Made, Payload.isEmpty_iff, ClientRequest.create_eq_error_iff,
  ClientRequest.Delivers, Carries, HandledOnce, client_requests_arrive_as_built
-/
import WebHost.Client.Loopback
import WebHost.Demo
import WebHost.Proofs.Server.BodyGate
import WebHost.Proofs.Server.CommonHeaders

namespace WebHost

open Number Text

/-!
Whether there is a body is asked at three places: when a call is built, when it
is sent and when it is received.  They ask differently, for the kind of payload,
for the method and for the declared length, and still agree.  What stands
between client and server is not looked into; it is taken to hand on what it was
given and to announce the length of a body.
-/

/-! ### Payloads -/

namespace Json

theorem positional_ne_nil (decimal : Decimal) (fraction : Nat) (nonzero : fraction ≠ 0) :
    decimal.positional fraction ≠ [] := by
  unfold Decimal.positional
  simp only [nonzero, if_false]
  split <;> simp

theorem writeDecimal_ne_nil (decimal : Decimal) : writeDecimal decimal ≠ [] := by
  unfold writeDecimal
  dsimp only
  split
  · exact positional_ne_nil decimal 1 Nat.one_ne_zero
  · simp

/-- Every value is written with at least one character. -/
theorem write_ne_nil (value : Json) : write value ≠ [] := by
  cases value with
  | null => simp [write]
  | bool value => cases value <;> simp [write]
  | integer value =>
      rw [write, writeInteger]
      split
      · simp
      · exact Nat.toDigits_ne_nil
  | float value =>
      rw [write]
      cases value with
      | notANumber => simp [writeFloat]
      | infinite negative => simp [writeFloat]
      | finite negative significand exponent =>
          simp only [writeFloat]
          split
          · simp
          · exact writeDecimal_ne_nil _
  | text value => simp [write, writeText]
  | list items => cases items <;> simp [write]
  | object members =>
      cases members with
      | nil => simp [write]
      | cons member rest => simp [write]

end Json

theorem encode_eq_nil_iff {text : String} : encode text = [] ↔ text = "" :=
  ⟨fun unwritten => encode_injective (unwritten.trans rfl), fun empty => empty ▸ rfl⟩

/-- A payload says that it is empty exactly if it has no bytes. -/
theorem Payload.isEmpty_iff (payload : Payload) :
    payload.isEmpty = true ↔ payload.toBytes = [] := by
  cases payload with
  | empty => simp [isEmpty, toBytes]
  | json value =>
      have written : value.toBytes ≠ [] := by
        intro unwritten
        have text := congrArg String.toList (encode_eq_nil_iff.1 unwritten)
        rw [Json.toText, String.toList_ofList] at text
        exact value.write_ne_nil text
      simp [isEmpty, toBytes, written]
  | text text => simp [isEmpty, toBytes, encode_eq_nil_iff]

/-! ### Calls -/

/-- Steps come out well if the first does, and the others with its result. -/
theorem bind_eq_ok_iff {ε α β : Type} {first : Except ε α} {others : α → Except ε β} {result : β} :
    (first >>= others) = .ok result ↔ ∃ value, first = .ok value ∧ others value = .ok result := by
  cases first with
  | error reason => simp [bind, Except.bind]
  | ok value => simp [bind, Except.bind]

/-- Executing what was drafted hands this to every network, and comes back with what
the network makes of it, just if it is the draft and nothing is wrong with that. -/
theorem execute_iff {drafted : Except ClientError Draft} {outgoing : Outgoing} :
    (∀ network : Network, (drafted >>= execute network) = (network outgoing).mapError .http) ↔
      drafted = .ok { outgoing := outgoing, broken := false } ∧
        isSendable outgoing.url = true := by
  classical
  constructor
  · intro delivers
    -- A network that answers this request alone tells it from every other.
    let reply : ClientResponse := { status := .success, fields := .empty, content := [] }
    let network : Network := fun other =>
      if other = outgoing then .ok reply else .error .transport
    have answered : (drafted >>= execute network) = .ok reply := by
      rw [delivers network]
      simp only [network, if_true]
      rfl
    cases drafted with
    | error reason => cases answered
    | ok draft =>
        obtain ⟨written, broken⟩ := draft
        replace answered : execute network { outgoing := written, broken := broken } =
            .ok reply := answered
        unfold execute at answered
        split at answered
        · cases answered
        · rename_i sound
          rw [not_or, Bool.not_eq_true, Bool.not_eq_true, Bool.not_eq_false'] at sound
          obtain ⟨rfl, sendable⟩ := sound
          by_cases same : written = outgoing
          · subst same
            exact ⟨rfl, sendable⟩
          · simp only [network, same, if_false] at answered
            cases answered
  · rintro ⟨rfl, sendable⟩ network
    simp [bind, Except.bind, execute, sendable]

namespace ClientRequest

/-- The calls that can be made: by payload, by one of the short forms, and any of
these with another content type. -/
inductive Made : ClientRequest → Prop where
  | created (method : Method) (path : String) (payload : Payload) (request : ClientRequest)
      (created : create method path payload = .ok request) : Made request
  | get (path : String) : Made (.get path)
  | delete (path : String) : Made (.delete path)
  | postJson (path : String) (value : Json) : Made (.postJson path value)
  | postText (path text : String) : Made (.postText path text)
  | putText (path text : String) : Made (.putText path text)
  | typed (request : ClientRequest) (contentType : String) (made : Made request) :
      Made (request.withContentType contentType)

theorem not_takesBody_iff {method : Method} :
    ¬ TakesBody method ↔ method = .get ∨ method = .delete := by
  cases method <;> simp [TakesBody]

/-- A call is refused just for a payload that its method does not carry. -/
theorem create_eq_error_iff {method : Method} {path : String} {payload : Payload}
    {error : ClientError} :
    create method path payload = .error error ↔
      error = .bodyNotAllowed method ∧ (method = .get ∨ method = .delete) ∧
        payload.toBytes ≠ [] := by
  rw [← not_takesBody_iff, takesBody_iff, ne_eq, ← payload.isEmpty_iff, Bool.not_eq_true,
    Bool.not_eq_true]
  unfold create
  cases accepts : method.acceptsBody <;> cases empty : payload.isEmpty <;> simp [eq_comm]

/-- A call whose method carries no body has none. -/
theorem Made.bodiless {request : ClientRequest} (made : Made request)
    (bodiless : request.method = .get ∨ request.method = .delete) :
    request.payload.toBytes = [] := by
  induction made with
  | created method path payload request created =>
      unfold create at created
      split at created
      · cases created
      · rename_i allowed
        cases created
        rw [← not_takesBody_iff, takesBody_iff] at bodiless
        refine payload.isEmpty_iff.1 ?_
        simpa [bodiless] using allowed
  | get path => rfl
  | delete path => rfl
  | postJson path value => rcases bodiless with post | post <;> cases post
  | postText path text => rcases bodiless with post | post <;> cases post
  | putText path text => rcases bodiless with put | put <;> cases put
  | typed request contentType made ih => exact ih bodiless

/-! ### What is sent -/

/-- Sending the call below a base, with standard options, hands this to the network
and comes back with what the network makes of it. -/
def Delivers (request : ClientRequest) (base : String) (outgoing : Outgoing) : Prop :=
  ∀ network : Network,
    sendRequest network request base .standard = (network outgoing).mapError .http

/-- What is handed over is the draft of the call, if nothing is wrong with it. -/
theorem delivers_iff {request : ClientRequest} {base : String} {outgoing : Outgoing} :
    request.Delivers base outgoing ↔
      request.draft base .standard = .ok { outgoing := outgoing, broken := false } ∧
        isSendable outgoing.url = true :=
  execute_iff

end ClientRequest

/-- A draft for this method with this body, which asks for no upgrade. -/
structure Draft.Plain (method : Method) (body : Bytes) (draft : Draft) : Prop where
  method : draft.outgoing.method = method
  body : draft.outgoing.body = body
  unasked : draft.outgoing.fields.values .upgrade = []

section Drafts

variable {method : Method} {body : Bytes} {draft : Draft}

theorem Draft.Plain.addHeader (plain : draft.Plain method body) {name : String}
    (apart : FieldName.parse? name ≠ some .upgrade) (value : String) :
    (draft.addHeader name value).Plain method body := by
  unfold Draft.addHeader Fields.appendBytes
  cases parsed : FieldName.parse? name with
  | none => exact ⟨plain.method, plain.body, plain.unasked⟩
  | some field =>
      cases FieldValue.ofBytes? (encode value) with
      | none => exact ⟨plain.method, plain.body, plain.unasked⟩
      | some held =>
          refine ⟨plain.method, plain.body, ?_⟩
          have other : field ≠ .upgrade := fun same => apart (same ▸ parsed)
          simp [plain.unasked, other]

theorem Draft.Plain.addHeaders (plain : draft.Plain method body)
    {headers : List (String × String)}
    (apart : ∀ header ∈ headers, FieldName.parse? header.1 ≠ some .upgrade) :
    (draft.addHeaders headers).Plain method body := by
  unfold Draft.addHeaders
  induction headers generalizing draft with
  | nil => exact plain
  | cons header rest ih =>
      obtain ⟨here, there⟩ := List.forall_mem_cons.1 apart
      exact ih (plain.addHeader here header.2) there

/-- Authentication takes one header, whoever is named. -/
theorem name_of_mem_authHeaders {url : Url} {options : RequestOptions} {header : String × String}
    (member : header ∈ authHeaders url options) : header.1 = "authorization" := by
  unfold authHeaders at member
  simp only [List.mem_append, List.mem_filterMap, List.mem_map, Option.mem_toList] at member
  rcases member with (⟨⟨user, password⟩, -, made⟩ | ⟨_, -, rfl⟩) | ⟨_, -, rfl⟩
  · simp only [bind, Option.bind_eq_some_iff, Option.some.injEq] at made
    obtain ⟨_, _, _, _, rfl⟩ := made
    rfl
  · rfl
  · rfl

/-- With standard options, nothing else than authentication is added. -/
theorem plain_prepare {url : String}
    (prepared : prepare method url .standard = .ok draft) : draft.Plain method [] := by
  have noConflict : RequestOptions.standard.checkAuth = .ok () := rfl
  unfold prepare at prepared
  rw [noConflict] at prepared
  cases parsed : normalizeUrl url with
  | error reason => simp [parsed, bind, Except.bind] at prepared
  | ok target =>
      have agent : Fields.empty.get? .userAgent = none := rfl
      simp only [parsed, bind, Except.bind, pure, Except.pure, RequestOptions.standard, agent,
        List.append_nil] at prepared
      cases prepared
      let blank : Draft :=
        { outgoing :=
            { method := method
              url := { target with userInfo := "", query := appendPairs target.query [] }
              fields := .empty
              body := []
              followRedirects := false }
          broken := target.host = none }
      have unfilled : blank.Plain method [] := ⟨rfl, rfl, rfl⟩
      have filled : (blank.addHeaders (authHeaders target .standard)).Plain method [] := by
        refine unfilled.addHeaders fun header member => ?_
        rw [name_of_mem_authHeaders member]
        decide
      exact ⟨filled.method, filled.body,
        (values_setIfAbsent_of_ne _ _ (by decide)).trans filled.unasked⟩

/-- The draft of a call has the bytes of its payload as its body. -/
theorem plain_draft {request : ClientRequest} {base : String}
    (drafted : request.draft base .standard = .ok draft) :
    draft.Plain request.method
      (if request.method.acceptsBody then request.payload.toBytes else []) := by
  unfold ClientRequest.draft at drafted
  cases prepared : prepare request.method (request.urlUnder base) .standard with
  | error reason => simp [prepared, bind, Except.bind] at drafted
  | ok start =>
      have plain := plain_prepare prepared
      have named : ∀ contentType,
          (start.addHeader "content-type" contentType).Plain request.method [] :=
        fun contentType => plain.addHeader (by decide) contentType
      simp only [prepared, bind, Except.bind, pure, Except.pure, Except.ok.injEq] at drafted
      subst drafted
      cases request.contentType? with
      | none =>
          split
          · exact ⟨plain.method, rfl, plain.unasked⟩
          · exact plain
      | some contentType =>
          split
          · exact ⟨(named contentType).method, rfl, (named contentType).unasked⟩
          · exact named contentType

end Drafts

/-! ### What arrives -/

/-- A request is received as it was handed to the network: for the same path and
query, with the same body, whose length is announced if it has any, and with no
upgrade that was not asked for. -/
structure Carries (outgoing : Outgoing) (incoming : Incoming) : Prop where
  method : incoming.method = outgoing.method.name
  path : incoming.target.path = outgoing.url.path
  query : incoming.target.query = outgoing.url.query
  body : incoming.body = some outgoing.body
  announced : outgoing.body ≠ [] → ∃ value, incoming.fields.get? .contentLength = some value ∧
    value.bytes = encode (naturalText outgoing.body.length)
  asked : incoming.fields.get? .upgrade = outgoing.fields.get? .upgrade

/-- The network within this library hands requests on. -/
theorem carries_incoming (outgoing : Outgoing) (peer : Option SocketAddress) :
    Carries outgoing (outgoing.incoming peer) := by
  refine ⟨rfl, rfl, rfl, rfl, fun nonempty => ⟨.ofNatural outgoing.body.length, ?_,
    bytes_ofNatural outgoing.body.length⟩, ?_⟩
  · simp [Outgoing.incoming, nonempty, Fields.get?, Fields.setContentLength]
  · unfold Outgoing.incoming Fields.get? Fields.setContentLength
    dsimp only
    split
    · rfl
    · rw [Fields.values_set, if_neg (by decide)]

/-- The announced length is the length that the server reads. -/
theorem declaredLength_of_text {fields : Fields} {value : FieldValue} {length : Nat}
    (first : fields.get? .contentLength = some value)
    (held : value.bytes = encode (naturalText length)) (fits : length < wordBound) :
    DeclaredLength fields length := by
  refine ⟨value, naturalText length, first,
    text?_of_visible (isVisible_of_mem_naturalText length) held,
    [], [], Nat.toDigits 10 length, [], ?_, nofun, nofun, .inl rfl, ?_, fits⟩
  · simp [naturalText]
  · exact readDigits?_eq_some_iff.1 (readDigits?_toDigits length)

/-- One entry point has handled the request, once, and has seen this of it. -/
structure HandledOnce {σ : Type} (router : Router σ) (files : FileSystem) (incoming : Incoming)
    (fresh : FieldValue) (world : World σ) (service path : String) (run : EntryPoint σ)
    (seen : Request) : Prop where
  answered : (router.respond files incoming fresh world).1 =
    router.finish incoming fresh (run seen router.server.entryResponse world.app).1.reply
  left : (router.respond files incoming fresh world).2.app =
    (run seen router.server.entryResponse world.app).2
  called : ∀ log, (router.logged.respond files incoming fresh (world.logged log)).2.app =
    ((run seen router.server.entryResponse world.app).2, log ++ [.entry service path seen])

section Handling

variable {σ : Type} {router : Router σ} {files : FileSystem} {incoming : Incoming}
  {service path : String} {method : Method} {run : EntryPoint σ}

/-- A request whose content can be read is handled. -/
theorem handledOnce_of_readContent (plain : isUpgradeRequest incoming.fields = false)
    (routed : router.server.route files incoming = .entry service path method run)
    {content : Bytes}
    (read : readContent router.server.config.limits.maxBodySize method incoming = .ok content)
    (fresh : FieldValue) (world : World σ) :
    HandledOnce router files incoming fresh world service path run
      (Server.entryRequest method incoming content) := by
  obtain ⟨replied, left, called⟩ := respond_of_not_upgrade router files plain fresh world
  have answer : router.server.answer files incoming world.app =
      ((run (Server.entryRequest method incoming content) router.server.entryResponse
          world.app).1.reply, service,
        (run (Server.entryRequest method incoming content) router.server.entryResponse
          world.app).2) := by
    simp [Server.answer, Server.answerEntry, routed, read]
  rw [answer] at replied left
  refine ⟨replied, left, fun log => ?_⟩
  rw [Router.respond_logged, called]
  simp [Server.invocations, routed, read, World.logged, left]

/-- A body that was announced with its length is read whole. -/
theorem readContent_of_carries {outgoing : Outgoing} (carries : Carries outgoing incoming)
    (takes : TakesBody method) (nonempty : outgoing.body ≠ []) {limit : Nat}
    (within : outgoing.body.length ≤ limit) (fits : limit < wordBound) :
    readContent limit method incoming = .ok outgoing.body := by
  obtain ⟨value, first, held⟩ := carries.announced nonempty
  have declared := declaredLength_of_text first held (Nat.lt_of_le_of_lt within fits)
  have nonzero : outgoing.body.length ≠ 0 := fun zero => nonempty (List.length_eq_zero_iff.1 zero)
  simp [readContent, takesBody_iff.1 takes, declaredLength_eq_ok_iff.2 declared, carries.body,
    Nat.not_lt.2 within, within, nonempty]

end Handling

section Arrival

variable {request : ClientRequest} {base : String} {outgoing : Outgoing}

/-- What is handed over has the whole payload for its body and asks for no upgrade. -/
theorem plain_of_delivers (made : request.Made) (delivers : request.Delivers base outgoing) :
    outgoing.method = request.method ∧ outgoing.body = request.payload.toBytes ∧
      outgoing.fields.get? .upgrade = none := by
  obtain ⟨drafted, -⟩ := ClientRequest.delivers_iff.1 delivers
  have plain := plain_draft drafted
  refine ⟨plain.method, plain.body.trans ?_, ?_⟩
  · cases accepts : request.method.acceptsBody with
    | true => rfl
    | false =>
        refine (made.bodiless (ClientRequest.not_takesBody_iff.1 ?_)).symm
        rw [takesBody_iff, accepts]
        exact Bool.false_ne_true
  · unfold Fields.get?
    rw [plain.unasked]
    rfl

theorem not_isUpgradeRequest_of_carries {incoming : Incoming} (carries : Carries outgoing incoming)
    (unasked : outgoing.fields.get? .upgrade = none) :
    isUpgradeRequest incoming.fields = false := by
  unfold isUpgradeRequest Fields.text?
  rw [carries.asked, unasked]
  rfl

end Arrival

/-- The three questions for a body agree, and what a client built arrives: a payload
says that it is empty exactly if it has no bytes; a call is refused exactly for
bytes that its method does not carry; so none are lost when it is sent; and the
entry point that it is routed to handles it once, with the bytes of the payload
as its content, as long as these are not above the limit, which is a number that
a machine word holds. -/
theorem client_requests_arrive_as_built :
    (∀ payload : Payload, payload.isEmpty = true ↔ payload.toBytes = []) ∧
    (∀ method path payload error, ClientRequest.create method path payload = .error error ↔
      error = .bodyNotAllowed method ∧ (method = .get ∨ method = .delete) ∧
        payload.isEmpty = false) ∧
    ∀ request : ClientRequest, request.Made →
      (request.method = .get ∨ request.method = .delete → request.payload.toBytes = []) ∧
      ∀ base outgoing, request.Delivers base outgoing →
        outgoing.body = request.payload.toBytes ∧
        ∀ {σ : Type} (router : Router σ) (files : FileSystem) (incoming : Incoming)
          (fresh : FieldValue) (world : World σ) (service path : String) (method : Method)
          (run : EntryPoint σ),
          router.server.config.limits.maxBodySize < wordBound → Carries outgoing incoming →
          router.server.route files incoming = .entry service path method run →
          (request.method = .post ∨ request.method = .put → request.payload.toBytes ≠ [] →
            request.payload.toBytes.length ≤ router.server.config.limits.maxBodySize →
            ∃ seen, HandledOnce router files incoming fresh world service path run seen ∧
              seen.method = request.method ∧ seen.content = request.payload.toBytes ∧
              ∀ text, request.payload = .text text → seen.contentText = text) ∧
          (request.method = .get ∨ request.method = .delete →
            ∃ seen, HandledOnce router files incoming fresh world service path run seen ∧
              seen.method = request.method ∧ seen.content = []) := by
  refine ⟨Payload.isEmpty_iff, ?_, fun request made => ⟨made.bodiless, ?_⟩⟩
  · intro method path payload error
    rw [ClientRequest.create_eq_error_iff, ne_eq, ← payload.isEmpty_iff, Bool.not_eq_true]
  intro base outgoing delivers
  obtain ⟨sameMethod, whole, unasked⟩ := plain_of_delivers made delivers
  refine ⟨whole, ?_⟩
  intro σ router files incoming fresh world service path method run sized carries routed
  have plain := not_isUpgradeRequest_of_carries carries unasked
  obtain rfl : method = request.method := by
    have token : method.name = request.method.name := by
      rw [← method_of_route_entry routed, carries.method, sameMethod]
    exact Option.some.inj ((Method.ofToken?_eq_some_iff.2 token).symm.trans
      (Method.ofToken?_eq_some_iff.2 rfl)).symm
  constructor
  · intro takes nonempty within
    rw [← whole] at nonempty within
    have read := readContent_of_carries carries takes nonempty within sized
    refine ⟨_, handledOnce_of_readContent plain routed read fresh world, rfl, whole, ?_⟩
    intro text typed
    have content : outgoing.body = encode text := by rw [whole, typed, Payload.toBytes]
    simp [Server.entryRequest, Request.contentText, content, decodeLossy_encode]
  · intro bodiless
    have read : readContent router.server.config.limits.maxBodySize request.method incoming =
        .ok [] := by
      rcases bodiless with get | delete
      · simp [readContent, get, Method.acceptsBody]
      · simp [readContent, delete, Method.acceptsBody]
    exact ⟨_, handledOnce_of_readContent plain routed read fresh world, rfl, rfl⟩

/-- A text that is posted to the demonstration server arrives there. -/
theorem client_requests_arrive_as_built_post :
    let router : Router Demo := .standard (Server.ofConfig default).addDemo
    let request := ClientRequest.postText "/webservice/post" "hello world"
    ∃ outgoing, request.Delivers "127.0.0.1:8080/" outgoing ∧
      Carries outgoing (outgoing.incoming none) ∧
      router.server.route default (outgoing.incoming none) =
        .entry "webservice" "post" .post demoPost ∧
      ∃ seen, HandledOnce router default (outgoing.incoming none) (.ofTexts [])
          (World.initial Demo.initial) "webservice" "post" demoPost seen ∧
        seen.contentText = "hello world" := by
  intro router request
  have sent : (request.draft "127.0.0.1:8080/" .standard).toOption.any (fun draft =>
      !draft.broken && isSendable draft.outgoing.url &&
        draft.outgoing.url.path == "/webservice/post") = true := by decide +kernel
  obtain ⟨outgoing, delivers, target⟩ : ∃ outgoing,
      request.Delivers "127.0.0.1:8080/" outgoing ∧ outgoing.url.path = "/webservice/post" := by
    cases drafted : request.draft "127.0.0.1:8080/" .standard with
    | error reason => simp [drafted, Except.toOption] at sent
    | ok draft =>
        obtain ⟨outgoing, broken⟩ := draft
        simp only [drafted, Except.toOption, Option.any_some, Bool.and_eq_true,
          Bool.not_eq_true', beq_iff_eq] at sent
        obtain ⟨⟨rfl, sendable⟩, target⟩ := sent
        exact ⟨outgoing, ClientRequest.delivers_iff.2 ⟨drafted, sendable⟩, target⟩
  have made : request.Made := .postText _ _
  have carries := carries_incoming outgoing none
  have method : outgoing.method = .post := (plain_of_delivers made delivers).1
  have routed : router.server.route default (outgoing.incoming none) =
      .entry "webservice" "post" .post demoPost :=
    route_of_routed (.entry .post "/webservice/post" "webservice" "post" demoPost
      (congrArg Method.name method) (by rw [carries.path, target]; decide) nofun
      (entry?_eq_some_iff_split.2 ⟨by decide, demoService "webservice" "", rfl, rfl⟩))
  obtain ⟨-, -, arrives⟩ := client_requests_arrive_as_built
  obtain ⟨seen, handled, -, -, text⟩ :=
    ((((arrives request made).2 _ outgoing delivers).2 router default _ (.ofTexts [])
      (World.initial Demo.initial) _ _ _ _ (by decide) carries routed).1 (.inl rfl)
        (by decide) (by decide))
  exact ⟨outgoing, delivers, carries, routed, seen, handled, text _ rfl⟩

end WebHost
