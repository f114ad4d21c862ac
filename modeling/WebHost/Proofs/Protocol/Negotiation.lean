/-
Module: WebHost.Proofs.Protocol.Negotiation
Purpose: The client and the server of a handshake settle on the same protocol.
Main exports:
  AsksForUpgrade, connectSocket_loopback, SameHandshake, both_ends_agree
-/
import WebHost.Client.Loopback
import WebHost.Proofs.Protocol.Offers
import WebHost.Proofs.Protocol.Table
import WebHost.Proofs.Server.CommonHeaders
import WebHost.Proofs.Server.Dispatch

namespace WebHost

open Text

/-!
The choice of the table is followed from end to end: the client writes its
offers on a line, the server reads them back, chooses, starts a session with its
choice and names it in the reply, and the client takes it from there.  What the
server does depends on the offers it reads, not on the lines that carry them.
-/

variable {σ : Type}

/-! ### First values -/

section FirstValue

variable {fields : Fields} {name : FieldName} {value : FieldValue} {text : String}

theorem fieldContains_of_values (found : fields.values name = [value])
    (held : value.bytes = encode text) (word : String) :
    fieldContains fields name word =
      occursIn word.toList (text.toList.map Char.toLower) := by
  simp [fieldContains, Fields.get?, found, held, decode?_encode]

theorem fieldEquals_of_values (found : fields.values name = [value])
    (held : value.bytes = encode text) (word : String) :
    fieldEquals fields name word = equalFold text word := by
  simp [fieldEquals, Fields.get?, found, held, decode?_encode]

theorem text?_of_values (found : fields.values name = [value]) :
    fields.text? name = value.text? := by
  simp [Fields.text?, Fields.get?, found]

end FirstValue

/-! ### The request of a client -/

/-- The address is one that a client can open a session at. -/
def IsSocketAddress (address : String) : Prop :=
  (address.startsWith "ws://" || address.startsWith "wss://") = true ∧
    ∃ target authority, Target.parse? address = some target ∧ target.authority = some authority

/-- A request that asks for an upgrade in due form, with this key and these
offers. -/
structure AsksForUpgrade (request : Incoming) (offers : List String) (key : FieldValue) :
    Prop where
  asks : isUpgradeRequest request.fields = true
  checked : checkHandshake request = .ok key
  spread : OfferLines offers (request.fields.values .socketProtocol)

/-- The fields of a handshake apart from its offers. -/
def handshakeFields (host : String) (key : FieldValue) : Fields :=
  ((((Fields.empty.setText "host" host).setValue .connection "Upgrade").setValue .upgrade
    "websocket").setValue .socketVersion "13").set .socketKey key

theorem values_host (host : String) {name : FieldName} (other : name.text ≠ "host") :
    (Fields.empty.setText "host" host).values name = [] := by
  have parsed : FieldName.parse? "host" = some ⟨"host", by decide⟩ := by decide
  have apart : (⟨"host", by decide⟩ : FieldName) ≠ name := by
    rintro rfl
    exact other rfl
  unfold Fields.setText
  rw [parsed]
  show ((Fields.empty.setValue ⟨"host", _⟩ host).values name) = []
  rw [values_setValue_of_ne _ apart]
  rfl

/-- A handshake with whatever offers asks for an upgrade in due form. -/
theorem asksForUpgrade_of_fields {request : Incoming} {host : String} {key : FieldValue}
    {offers : List String} (method : request.method = "GET")
    (upgradable : request.upgradable = true)
    (same : ∀ name ≠ .socketProtocol,
      request.fields.values name = (handshakeFields host key).values name)
    (spread : OfferLines offers (request.fields.values .socketProtocol)) :
    AsksForUpgrade request offers key := by
  obtain ⟨connection, connectionLegal, -⟩ :=
    @ofText?_of_visible "Upgrade" (isVisible_of_all (by decide))
  obtain ⟨upgrade, upgradeLegal, upgradeText⟩ :=
    @ofText?_of_visible "websocket" (isVisible_of_all (by decide))
  obtain ⟨version, versionLegal, -⟩ := @ofText?_of_visible "13" (isVisible_of_all (by decide))
  have shown : ∀ name, (handshakeFields host key).values name =
      if .socketKey = name then [key] else if .socketVersion = name then [version]
      else if .upgrade = name then [upgrade] else if .connection = name then [connection]
      else (Fields.empty.setText "host" host).values name := by
    intro name
    unfold handshakeFields
    rw [Fields.values_set, values_setValue versionLegal, values_setValue upgradeLegal,
      values_setValue connectionLegal]
  have connectionFound : request.fields.values .connection = [connection] := by
    rw [same _ (by decide), shown]
    rfl
  have upgradeFound : request.fields.values .upgrade = [upgrade] := by
    rw [same _ (by decide), shown]
    rfl
  have versionFound : request.fields.values .socketVersion = [version] := by
    rw [same _ (by decide), shown]
    rfl
  have keyFound : request.fields.get? .socketKey = some key := by
    unfold Fields.get?
    rw [same _ (by decide), shown]
    rfl
  constructor
  · unfold isUpgradeRequest
    rw [text?_of_values upgradeFound, upgradeText]
    decide
  · unfold checkHandshake
    rw [method, fieldContains_of_values connectionFound (bytes_of_ofText? connectionLegal),
      fieldEquals_of_values upgradeFound (bytes_of_ofText? upgradeLegal),
      fieldEquals_of_values versionFound (bytes_of_ofText? versionLegal), keyFound, upgradable]
    rfl
  · exact spread

theorem values_handshakeFields_socketProtocol (host : String) (key : FieldValue) :
    (handshakeFields host key).values .socketProtocol = [] := by
  unfold handshakeFields
  rw [Fields.values_set, if_neg (by decide), values_setValue_of_ne _ (by decide),
    values_setValue_of_ne _ (by decide), values_setValue_of_ne _ (by decide),
    values_host host (by decide)]

/-- A name that the server can read is one that a client can offer. -/
theorem isOfferable_of_isProtocolName {name : String} (legal : isProtocolName name = true) :
    isOfferable name = true := by
  obtain ⟨nonempty, all⟩ := (isProtocolName_iff name).1 legal
  have filled : name ≠ "" := by
    rintro rfl
    exact nonempty rfl
  unfold isOfferable
  rw [Bool.and_eq_true, List.all_eq_true]
  refine ⟨decide_eq_true filled, ?_⟩
  intro character member
  have char := all character member
  rw [not_isBlank_of_isProtocolChar char, Bool.not_false, Bool.and_true, decide_eq_true_eq]
  exact (isVisible_of_isProtocolChar char).lt

/-- The request that opens a session can be made, and asks for an upgrade. -/
theorem socketHandshake_asks {address : String} (reachable : IsSocketAddress address)
    {offers : List String} (legal : ∀ name ∈ offers, isProtocolName name = true)
    (key : FieldValue) :
    ∃ request, socketHandshake address offers key = .ok request ∧
      AsksForUpgrade request offers key := by
  obtain ⟨-, target, authority, parsed, present⟩ := reachable
  unfold socketHandshake
  rw [parsed]
  simp only [present]
  by_cases empty : offers = []
  · subst empty
    rw [if_pos rfl]
    refine ⟨_, rfl, ?_⟩
    apply asksForUpgrade_of_fields rfl rfl
    · intro name _
      rfl
    · show OfferLines [] ((handshakeFields (hostOf authority) key).values .socketProtocol)
      rw [values_handshakeFields_socketProtocol]
      exact .nil
  · obtain ⟨value, written, spread⟩ := exists_value_offerText empty legal
    have offerable : offers.all isOfferable = true := by
      rw [List.all_eq_true]
      intro name member
      exact isOfferable_of_isProtocolName (legal name member)
    rw [if_neg empty, written]
    simp only [offerable, if_true]
    refine ⟨_, rfl, ?_⟩
    apply asksForUpgrade_of_fields rfl rfl
    · intro name other
      show ((handshakeFields (hostOf authority) key).set .socketProtocol value).values name = _
      rw [Fields.values_set, if_neg (Ne.symm other)]
    · show OfferLines offers (((handshakeFields (hostOf authority) key).set .socketProtocol
        value).values .socketProtocol)
      rw [Fields.values_set, if_pos rfl]
      exact spread

/-! ### The answer of the server -/

section Answer

variable {router : Router σ} {request : Incoming} {offers : List String} {key : FieldValue}

/-- A session with this protocol, led by the handler that is registered for it. -/
def Speaks (router : Router σ) (session : Option (SessionInfo × Handler σ)) (name : String) :
    Prop :=
  ∃ info handler, session = some (info, handler) ∧ info.protocol = name ∧
    router.server.protocols.get? name = some handler

/-- The choice that the server makes for some offers. -/
def Router.choice (router : Router σ) (offers : List String) : Option String :=
  router.server.protocols.negotiate offers router.server.config.websocket.defaultProtocol

/-- The table knows what it chooses. -/
theorem known_of_choice {name : String} (chosen : router.choice offers = some name) :
    name ∈ router.server.protocols.names := by
  by_cases empty : offers = []
  · subst empty
    exact ((negotiate_of_none _ _ _).1 chosen).2
  · obtain ⟨before, after, -, known, -⟩ := (negotiate_of_offers _ empty _ _).1 chosen
    exact known

/-- With a choice, a request in due form starts a session and is told so. -/
theorem dispatch_of_choice (asks : AsksForUpgrade request offers key) {name : String}
    (chosen : router.choice offers = some name) (files : FileSystem) (world : World σ) :
    (router.dispatch files request world).reply = acceptReply key name (offers ≠ []) ∧
      Speaks router (router.dispatch files request world).session name := by
  obtain ⟨handler, found⟩ := exists_handler _ (known_of_choice chosen)
  have upgraded : router.server.upgrade request =
      .accepted (acceptReply key name (offers ≠ [])) name handler := by
    unfold Server.upgrade
    rw [offeredProtocols_of_lines asks.spread]
    unfold Router.choice at chosen
    simp [chosen, found, asks.checked]
  unfold Router.dispatch
  simp only [asks.asks, if_true, upgraded]
  exact ⟨trivial, _, handler, rfl, rfl, found⟩

/-- Without one, it starts none and is refused. -/
theorem dispatch_of_no_choice (asks : AsksForUpgrade request offers key)
    (unchosen : router.choice offers = none) (files : FileSystem) (world : World σ) :
    (router.dispatch files request world).reply =
        plainReply .badRequest "No supported WebSocket protocol" ∧
      (router.dispatch files request world).session = none := by
  have refused : router.server.upgrade request =
      .rejected (plainReply .badRequest "No supported WebSocket protocol") := by
    unfold Server.upgrade
    rw [offeredProtocols_of_lines asks.spread]
    unfold Router.choice at unchosen
    simp [unchosen]
  unfold Router.dispatch
  simp only [asks.asks, if_true, refused]
  exact ⟨trivial, trivial⟩

end Answer

/-! ### What the client makes of it -/

theorem isVisible_base64Char (number : Nat) : IsVisible (base64Char number) := by
  have alphabet : ∀ c ∈ base64Alphabet, IsVisible c := isVisible_of_all (by decide)
  unfold base64Char
  cases found : base64Alphabet[number % 64]? with
  | none => exact .inr (by decide)
  | some c => exact alphabet c (List.mem_of_getElem? found)

theorem isVisible_of_mem_base64Chars (bytes : Bytes) :
    ∀ c ∈ base64Chars bytes, IsVisible c := by
  have filler : IsVisible '=' := .inr (by decide)
  fun_induction base64Chars bytes with
  | case1 => simp
  | case2 a => simp [isVisible_base64Char, filler]
  | case3 a b => simp [isVisible_base64Char, filler]
  | case4 a b c rest ih =>
      simp only [List.forall_mem_cons]
      exact ⟨isVisible_base64Char _, isVisible_base64Char _, isVisible_base64Char _,
        isVisible_base64Char _, ih⟩

theorem acceptKey_visible (key : Bytes) : ∀ c ∈ (acceptKey key).toList, IsVisible c := by
  unfold acceptKey base64Text
  rw [String.toList_ofList]
  exact isVisible_of_mem_base64Chars _

section Reply

variable (key : FieldValue) (name : String)

/-- The reply carries the proof that the request was read. -/
theorem values_acceptReply_socketAccept (offered : Bool) :
    ∃ proof, (acceptReply key name offered).fields.values .socketAccept = [proof] ∧
      proof.text? = some (acceptKey key.bytes) := by
  obtain ⟨proof, legal, text⟩ := ofText?_of_visible (acceptKey_visible key.bytes)
  refine ⟨proof, ?_, text⟩
  cases offered with
  | false => exact (values_setValue legal _ _ _).trans (if_pos rfl)
  | true =>
      show (Fields.setValue _ .socketProtocol name).values .socketAccept = [proof]
      rw [values_setValue_of_ne _ (by decide), values_setValue legal, if_pos rfl]

/-- A choice among offers is named on the reply. -/
theorem values_acceptReply_offered {value : FieldValue}
    (legal : FieldValue.ofText? name = some value) :
    (acceptReply key name true).fields.values .socketProtocol = [value] :=
  (values_setValue legal _ _ _).trans (if_pos rfl)

/-- The default is not. -/
theorem values_acceptReply_unoffered :
    (acceptReply key name false).fields.values .socketProtocol = [] := by
  show (Fields.setValue _ .socketAccept _).values .socketProtocol = []
  rw [values_setValue_of_ne _ (by decide), values_setValue_of_ne _ (by decide),
    values_setValue_of_ne _ (by decide)]
  rfl

/-- The client accepts the reply and takes the choice from it. -/
theorem verifyHandshake_finish (router : Router σ) (request : Incoming) (fresh : FieldValue)
    {offers : List String} (legal : ∀ name ∈ offers, isProtocolName name = true)
    (among : offers ≠ [] → name ∈ offers) :
    verifyHandshake offers key
        (router.finish request fresh (acceptReply key name (offers ≠ []))) =
      .ok (if offers = [] then none else some name) := by
  obtain ⟨proof, proven, text⟩ := values_acceptReply_socketAccept key name (offers ≠ [])
  have status : (router.finish request fresh (acceptReply key name (offers ≠ []))).status =
      .switchingProtocols := status_finish router request fresh _
  have accepted : (router.finish request fresh (acceptReply key name (offers ≠ []))).fields.text?
      .socketAccept = some (acceptKey key.bytes) := by
    rw [← text]
    apply text?_of_values
    rw [values_finish router request fresh _ (by decide), proven]
  have named := values_finish router request fresh (acceptReply key name (offers ≠ []))
    (show FieldName.socketProtocol ∉ commonNames by decide)
  unfold verifyHandshake
  simp only [status, accepted, ne_eq, not_true_eq_false, or_self, if_false]
  unfold Fields.get?
  by_cases empty : offers = []
  · simp only [empty, ne_eq, not_true_eq_false, decide_false] at named ⊢
    rw [named, values_acceptReply_unoffered]
    rfl
  · have member := among empty
    obtain ⟨-, all⟩ := (isProtocolName_iff name).1 (legal name member)
    obtain ⟨value, written, read⟩ := @ofText?_of_visible name
      (fun c inside => isVisible_of_isProtocolChar (all c inside))
    simp only [empty, ne_eq, not_false_eq_true, decide_true] at named ⊢
    rw [named, values_acceptReply_offered key name written]
    simp [read, member]

end Reply

/-- A client that talks to a server hears of its choice, and of nothing if there
is none. -/
theorem connectSocket_loopback (router : Router σ) (files : FileSystem) (fresh : FieldValue)
    (world : World σ) {address : String} (reachable : IsSocketAddress address)
    {offers : List String} (legal : ∀ name ∈ offers, isProtocolName name = true)
    (key : FieldValue) :
    connectSocket (loopbackSocket router files fresh world) address offers key =
      match router.choice offers with
      | some name => .ok (if offers = [] then none else some name)
      | none => .error .socket := by
  obtain ⟨request, made, asks⟩ := socketHandshake_asks reachable legal key
  have replied : connectSocket (loopbackSocket router files fresh world) address offers key =
      verifyHandshake offers key
        (router.finish request fresh (router.dispatch files request world).reply) := by
    unfold connectSocket
    rw [made]
    simp [reachable.1, loopbackSocket, Router.respond, bind, Except.bind]
  rw [replied]
  cases chosen : router.choice offers with
  | none =>
      obtain ⟨reply, -⟩ := dispatch_of_no_choice asks chosen files world
      have status : (router.finish request fresh (plainReply .badRequest
          "No supported WebSocket protocol")).status = .badRequest :=
        status_finish router request fresh _
      rw [reply]
      unfold verifyHandshake
      rw [status, if_pos (.inl (by decide))]
  | some name =>
      obtain ⟨reply, -⟩ := dispatch_of_choice asks chosen files world
      rw [reply]
      apply verifyHandshake_finish key name router request fresh legal
      intro offered
      obtain ⟨before, after, split, -⟩ := (negotiate_of_offers _ offered _ _).1 chosen
      rw [split]
      exact List.mem_append_right _ List.mem_cons_self

/-- The session opens just when the server makes a choice. -/
theorem connectSocket_eq_ok_iff (router : Router σ) (files : FileSystem) (fresh : FieldValue)
    (world : World σ) {address : String} (reachable : IsSocketAddress address)
    {offers : List String} (legal : ∀ name ∈ offers, isProtocolName name = true)
    (key : FieldValue) (told : Option String) :
    connectSocket (loopbackSocket router files fresh world) address offers key = .ok told ↔
      ∃ name, router.choice offers = some name ∧
        (if offers = [] then none else some name) = told := by
  rw [connectSocket_loopback router files fresh world reachable legal key]
  cases router.choice offers with
  | none => simp
  | some name => simp

/-! ### Requests that differ in the lines of their offers -/

/-- Two requests are the same but for the lines that carry the same offers. -/
structure SameHandshake (one other : Incoming) : Prop where
  method : one.method = other.method
  peer : one.peer = other.peer
  upgradable : one.upgradable = other.upgradable
  fields : ∀ name ≠ .socketProtocol, one.fields.values name = other.fields.values name
  offers : offeredProtocols one.fields = offeredProtocols other.fields

namespace SameHandshake

variable {one other : Incoming}

theorem get? (same : SameHandshake one other) {name : FieldName} (apart : name ≠ .socketProtocol) :
    one.fields.get? name = other.fields.get? name := by
  unfold Fields.get?
  rw [same.fields name apart]

theorem isUpgradeRequest (same : SameHandshake one other) :
    isUpgradeRequest one.fields = isUpgradeRequest other.fields := by
  unfold WebHost.isUpgradeRequest Fields.text?
  rw [same.get? (by decide)]

theorem checkHandshake (same : SameHandshake one other) :
    checkHandshake one = checkHandshake other := by
  unfold WebHost.checkHandshake fieldContains fieldEquals
  rw [same.method, same.upgradable, same.get? (by decide), same.get? (by decide),
    same.get? (by decide), same.get? (by decide)]

theorem upgrade (same : SameHandshake one other) (server : Server σ) :
    server.upgrade one = server.upgrade other := by
  unfold Server.upgrade
  rw [same.offers, same.checkHandshake]

/-- The server does not tell such requests apart. -/
theorem dispatch (same : SameHandshake one other)
    (asks : WebHost.isUpgradeRequest other.fields = true) (router : Router σ)
    (files : FileSystem) (world : World σ) :
    router.dispatch files one world = router.dispatch files other world := by
  unfold Router.dispatch
  rw [same.isUpgradeRequest, same.upgrade, same.method, same.peer]
  simp only [asks, if_true]

theorem respond (same : SameHandshake one other)
    (asks : WebHost.isUpgradeRequest other.fields = true) (router : Router σ)
    (files : FileSystem) (fresh : FieldValue) (world : World σ) :
    router.respond files one fresh world = router.respond files other fresh world := by
  unfold Router.respond Router.finish Router.requestId
  rw [same.dispatch asks, same.method, same.get? (by decide)]

end SameHandshake

/-! ### Both ends -/

/-- What a client gets for its offers and the session that the server begins fit
each other.  With offers, the session opens just when the table knows one of
them, and both ends go by the first that it knows.  Without, it opens just when
the table knows the default, and the server goes by that while the client is
told nothing.  A session that does not open is not begun either. -/
structure EndsAgree (router : Router σ) (offers : List String)
    (connected : Except ClientError (Option String))
    (session : Option (SessionInfo × Handler σ)) : Prop where
  opensByOffer : offers ≠ [] →
    ((∃ told, connected = .ok told) ↔ ∃ name ∈ offers, name ∈ router.server.protocols.names)
  byOffer : offers ≠ [] → ∀ told, connected = .ok told →
    ∃ name, FirstKnown router.server.protocols offers name ∧ told = some name ∧
      Speaks router session name
  opensByDefault : offers = [] →
    ((∃ told, connected = .ok told) ↔
      ∃ name, router.server.config.websocket.defaultProtocol = some name ∧
        name ∈ router.server.protocols.names)
  byDefault : offers = [] → ∀ told, connected = .ok told →
    told = none ∧ ∃ name, router.server.config.websocket.defaultProtocol = some name ∧
      Speaks router session name
  refused : (∀ told, connected ≠ .ok told) → session = none

theorem endsAgree_of_request (router : Router σ) (files : FileSystem) (world : World σ)
    {offers : List String} {key : FieldValue} {request : Incoming}
    (asks : AsksForUpgrade request offers key) {connected : Except ClientError (Option String)}
    (opens : ∀ told, connected = .ok told ↔
      ∃ name, router.choice offers = some name ∧
        (if offers = [] then none else some name) = told) :
    EndsAgree router offers connected (router.dispatch files request world).session := by
  constructor
  · intro offered
    rw [← negotiate_isSome_of_offers _ offered router.server.config.websocket.defaultProtocol]
    constructor
    · rintro ⟨told, opened⟩
      obtain ⟨name, chosen, -⟩ := (opens told).1 opened
      exact Option.isSome_of_eq_some chosen
    · intro known
      obtain ⟨name, chosen⟩ := Option.isSome_iff_exists.1 known
      exact ⟨_, (opens _).2 ⟨name, chosen, rfl⟩⟩
  · intro offered told opened
    obtain ⟨name, chosen, rfl⟩ := (opens told).1 opened
    refine ⟨name, (negotiate_of_offers _ offered _ _).1 chosen, if_neg offered, ?_⟩
    exact (dispatch_of_choice asks chosen files world).2
  · rintro rfl
    constructor
    · rintro ⟨told, opened⟩
      obtain ⟨name, chosen, -⟩ := (opens told).1 opened
      exact ⟨name, (negotiate_of_none _ _ _).1 chosen⟩
    · rintro ⟨name, known⟩
      exact ⟨_, (opens _).2 ⟨name, (negotiate_of_none _ _ _).2 known, rfl⟩⟩
  · rintro rfl told opened
    obtain ⟨name, chosen, rfl⟩ := (opens told).1 opened
    refine ⟨if_pos rfl, name, ((negotiate_of_none _ _ _).1 chosen).1, ?_⟩
    exact (dispatch_of_choice asks chosen files world).2
  · intro failed
    cases chosen : router.choice offers with
    | none => exact (dispatch_of_no_choice asks chosen files world).2
    | some name => exact absurd ((opens _).2 ⟨name, chosen, rfl⟩) (failed _)

/-- The client and the server of a handshake agree on the protocol, and it does
not matter to the server how the offers are spread over header lines. -/
theorem both_ends_agree (router : Router σ) (files : FileSystem) (fresh : FieldValue)
    (world : World σ) {address : String} (reachable : IsSocketAddress address)
    {offers : List String} (legal : ∀ name ∈ offers, isProtocolName name = true)
    (key : FieldValue) :
    ∃ request, socketHandshake address offers key = .ok request ∧
      EndsAgree router offers
        (connectSocket (loopbackSocket router files fresh world) address offers key)
        (router.dispatch files request world).session ∧
      ∀ fields : Fields,
        (∀ name ≠ .socketProtocol, fields.values name = request.fields.values name) →
        OfferLines offers (fields.values .socketProtocol) →
        router.dispatch files { request with fields := fields } world =
            router.dispatch files request world ∧
          router.respond files { request with fields := fields } fresh world =
            router.respond files request fresh world := by
  obtain ⟨request, made, asks⟩ := socketHandshake_asks reachable legal key
  have opens := connectSocket_eq_ok_iff router files fresh world reachable legal key
  refine ⟨request, made, endsAgree_of_request router files world asks opens, ?_⟩
  intro fields others spread
  have same : SameHandshake { request with fields := fields } request := by
    refine ⟨rfl, rfl, rfl, others, ?_⟩
    rw [offeredProtocols_of_lines spread, offeredProtocols_of_lines asks.spread]
  constructor
  · exact same.dispatch asks.asks router files world
  · exact same.respond asks.asks router files fresh world

/-- The demonstration server passes over an offer that it does not know. -/
theorem both_ends_agree_demo :
    let router : Router Demo := .standard (Server.ofConfig default).addDemo
    let offers := ["chat", "proto-two", "websocket-protocol"]
    let connected := connectSocket (loopbackSocket router default (.ofTexts [])
      (World.initial Demo.initial)) "ws://127.0.0.1:8080/" offers (.ofTexts ["a2V5"])
    connected = .ok (some "proto-two") ∧
      ∃ request, socketHandshake "ws://127.0.0.1:8080/" offers (.ofTexts ["a2V5"]) = .ok request ∧
        Speaks router (router.dispatch default request (World.initial Demo.initial)).session
          "proto-two" := by
  intro router offers connected
  let target : Target := { authority := some "127.0.0.1:8080", path := "/", query := none }
  have reachable : IsSocketAddress "ws://127.0.0.1:8080/" :=
    ⟨by decide +kernel, target, "127.0.0.1:8080", by decide +kernel, rfl⟩
  have legal : ∀ name ∈ offers, isProtocolName name = true := by decide
  have nonempty : offers ≠ [] := List.cons_ne_nil _ _
  have known : ∃ name ∈ offers, name ∈ router.server.protocols.names :=
    ⟨"proto-two", by decide, by decide⟩
  obtain ⟨request, made, agree, -⟩ := both_ends_agree router default (.ofTexts [])
    (World.initial Demo.initial) reachable legal (.ofTexts ["a2V5"])
  obtain ⟨told, opened⟩ := (agree.opensByOffer nonempty).2 known
  obtain ⟨name, first, rfl, speaks⟩ := agree.byOffer nonempty told opened
  have chosen := (negotiate_of_offers _ nonempty none name).2 first
  have expected : router.server.protocols.negotiate offers none = some "proto-two" := by decide
  rw [expected] at chosen
  cases chosen
  exact ⟨opened, request, made, speaks⟩

end WebHost
