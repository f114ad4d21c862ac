/-
Module: WebHost.Proofs.Server.Handshake
Purpose: What a request for an upgrade to WebSocket leads to.
Main exports:
  FirstIs, isUpgradeRequest_iff, WellFormedHandshake, checkHandshake_eq_ok_iff, Selected,
  UpgradeOutcome, LeavesNoTrace, BeginsSession, rejected_handshake_leaves_no_trace,
  unread_offer_begins_session
-/
import Mathlib.Data.List.Basic
import WebHost.Demo
import WebHost.Proofs.Protocol.Lines
import WebHost.Proofs.Protocol.Negotiation
import WebHost.Proofs.Server.Traffic

namespace WebHost

open Text

/-!
Whether a session starts is settled before anything is done: a protocol has to
be chosen, and then the handshake has to be in due form.  A request that fails
at either has been counted and answered with a text, and that is all; the
number, the registration and the first callback come with a session.  A protocol
is chosen by the offers that the server reads.  A line with bytes beyond ASCII
holds none for it, so a client that offers something on such a line alone is
taken for one that offers nothing.
-/

variable {σ : Type}

/-! ### Words in any letter case -/

/-- The byte with ASCII capitals turned into small letters. -/
def lowerByte (byte : UInt8) : UInt8 :=
  if 65 ≤ byte ∧ byte ≤ 90 then byte + 32 else byte

/-- The first value of a name is a word in any letter case. -/
def FirstIs (fields : Fields) (name : FieldName) (word : String) : Prop :=
  ∃ value, fields.get? name = some value ∧ value.bytes.map lowerByte = encode word

/-- The first value of a name is text with a word in it, in any letter case. -/
def FirstContains (fields : Fields) (name : FieldName) (word : String) : Prop :=
  ∃ value text, fields.get? name = some value ∧ value.bytes = encode text ∧
    word.toList <:+: text.toList.map Char.toLower

theorem lowerByte_of_not_ascii {byte : UInt8} (wide : ¬ byte < 0x80) : lowerByte byte = byte := by
  rw [UInt8.lt_iff_toNat_lt] at wide
  unfold lowerByte
  rw [if_neg]
  rintro ⟨-, small⟩
  rw [UInt8.le_iff_toNat_le] at small
  exact wide (Nat.lt_of_le_of_lt small (by decide))

/-- Characters are turned into small letters byte by byte. -/
theorem utf8EncodeChar_toLower (character : Char) :
    String.utf8EncodeChar character.toLower = (String.utf8EncodeChar character).map lowerByte := by
  by_cases ascii : character.toNat < 128
  · exact forall_ascii (P := fun c => String.utf8EncodeChar c.toLower =
      (String.utf8EncodeChar c).map lowerByte) (by decide +kernel) ascii
  · have wide : 128 ≤ character.toNat := Nat.not_lt.1 ascii
    have same : (String.utf8EncodeChar character).map lowerByte =
        (String.utf8EncodeChar character).map id :=
      List.map_congr_left fun byte member =>
        lowerByte_of_not_ascii (not_ascii_of_mem_utf8EncodeChar wide member)
    rw [toLower_of_not_ascii ascii, same, List.map_id]

theorem encode_foldCase (text : String) : encode (foldCase text) = (encode text).map lowerByte := by
  rw [encode_eq_flatMap, encode_eq_flatMap, foldCase, String.toList_ofList, List.map_flatMap,
    List.flatMap_map]
  exact List.flatMap_congr fun character _ => utf8EncodeChar_toLower character

theorem equalFold_iff {text word : String} :
    equalFold text word = true ↔ (encode text).map lowerByte = (encode word).map lowerByte := by
  rw [← encode_foldCase, ← encode_foldCase, equalFold, beq_iff_eq]
  constructor
  · exact fun same => congrArg (fun folded => encode (String.ofList folded)) same
  · exact fun same => String.ofList_inj.1 (encode_injective same)

/-- A word that comparison can look for: ASCII without capitals. -/
def IsSmallWord (word : String) : Prop :=
  (encode word).map lowerByte = encode word ∧ ∀ byte ∈ encode word, byte.toNat < 128

theorem isSmallWord_websocket : IsSmallWord "websocket" := ⟨by decide, ascii_of_all (by decide)⟩

theorem isSmallWord_version : IsSmallWord "13" := ⟨by decide, ascii_of_all (by decide)⟩

/-- Only ASCII is such a word in some letter case. -/
theorem ascii_of_map_lowerByte {word : String} (small : IsSmallWord word) {bytes : Bytes}
    (same : bytes.map lowerByte = encode word) : ∀ byte ∈ bytes, byte.toNat < 128 := by
  intro byte member
  have below := small.2 (lowerByte byte) (same ▸ List.mem_map_of_mem member)
  refine Classical.byContradiction fun wide => wide ?_
  rwa [lowerByte_of_not_ascii fun ascii => wide (UInt8.lt_iff_toNat_lt.1 ascii)] at below

/-- Bytes are such a word if the text that they encode is, in any letter case. -/
theorem map_lowerByte_eq_iff {word : String} (small : IsSmallWord word) {bytes : Bytes} :
    bytes.map lowerByte = encode word ↔
      ∃ text, bytes = encode text ∧ equalFold text word = true := by
  constructor
  · intro same
    have written := encode_byteChars (ascii_of_map_lowerByte small same)
    refine ⟨_, written.symm, ?_⟩
    rw [equalFold_iff, written, same, small.1]
  · rintro ⟨text, rfl, equal⟩
    rw [equalFold_iff.1 equal, small.1]

theorem fieldEquals_iff {word : String} (small : IsSmallWord word) (fields : Fields)
    (name : FieldName) :
    fieldEquals fields name word = true ↔ FirstIs fields name word := by
  unfold fieldEquals FirstIs
  cases fields.get? name with
  | none => simp
  | some value =>
      simp only [map_lowerByte_eq_iff small, Option.some.injEq, exists_eq_left', Option.bind_some]
      have read : ∀ text, value.bytes = encode text ↔ decode? value.bytes = some text :=
        fun text => decode?_eq_some_iff.symm
      simp only [read]
      cases decode? value.bytes <;> simp

theorem isUpgradeRequest_iff {fields : Fields} :
    isUpgradeRequest fields = true ↔ FirstIs fields .upgrade "websocket" := by
  have small := isSmallWord_websocket
  unfold isUpgradeRequest Fields.text? FirstIs
  cases fields.get? .upgrade with
  | none => simp
  | some value =>
      simp only [map_lowerByte_eq_iff small, Option.some.injEq, exists_eq_left', Option.bind_some]
      -- The word is ASCII, so a value that is not readable is no such word either.
      have read : ∀ text, value.bytes = encode text ∧ equalFold text "websocket" = true ↔
          value.text? = some text ∧ equalFold text "websocket" = true := by
        intro text
        rw [text?_eq_some_iff_readable, and_assoc, iff_and_self]
        rintro ⟨held, equal⟩
        exact ascii_of_map_lowerByte small ((map_lowerByte_eq_iff small).2 ⟨text, held, equal⟩)
      simp only [read]
      cases value.text? <;> simp

/-- A word is found in a run of characters just where it stands in it. -/
theorem occursIn_iff {part : List Char} (nonempty : part ≠ []) (characters : List Char) :
    occursIn part characters = true ↔ part <:+: characters :=
  cutAtText_isSome_iff nonempty characters

theorem fieldContains_iff {word : String} (nonempty : word.toList ≠ []) (fields : Fields)
    (name : FieldName) :
    fieldContains fields name word = true ↔ FirstContains fields name word := by
  unfold fieldContains FirstContains
  cases fields.get? name with
  | none => simp
  | some value =>
      have read : ∀ text, value.bytes = encode text ↔ decode? value.bytes = some text :=
        fun text => decode?_eq_some_iff.symm
      cases decoded : decode? value.bytes with
      | none => simp [read, decoded]
      | some text => simp [read, decoded, occursIn_iff nonempty]

/-! ### Handshakes in due form -/

/-- A handshake in due form with this key, on a connection that can be upgraded. -/
structure WellFormedHandshake (incoming : Incoming) (key : FieldValue) : Prop where
  method : incoming.method = "GET"
  connection : FirstContains incoming.fields .connection "upgrade"
  upgrade : FirstIs incoming.fields .upgrade "websocket"
  version : FirstIs incoming.fields .socketVersion "13"
  keyed : incoming.fields.get? .socketKey = some key
  upgradable : incoming.upgradable = true

/-- A check is passed if it finds no fault and the rest of the checks is passed. -/
theorem check_eq_ok_iff {faulty : Prop} [Decidable faulty] {fault : HandshakeFault}
    {rest : Except HandshakeFault FieldValue} {key : FieldValue} :
    (if faulty then .error fault else rest) = .ok key ↔ ¬ faulty ∧ rest = .ok key := by
  by_cases found : faulty
  · simp [found]
  · simp [found]

theorem checkHandshake_eq_ok_iff {incoming : Incoming} {key : FieldValue} :
    checkHandshake incoming = .ok key ↔ WellFormedHandshake incoming key := by
  have get : Method.get.name = "GET" := rfl
  unfold checkHandshake
  rw [check_eq_ok_iff, check_eq_ok_iff, check_eq_ok_iff, check_eq_ok_iff, get, not_not]
  simp only [Bool.not_eq_true', Bool.not_eq_false,
    fieldContains_iff (show "upgrade".toList ≠ [] by decide),
    fieldEquals_iff isSmallWord_websocket, fieldEquals_iff isSmallWord_version]
  constructor
  · rintro ⟨method, connection, upgrade, version, checked⟩
    cases keyed : incoming.fields.get? .socketKey with
    | none =>
        rw [keyed] at checked
        cases checked
    | some own =>
        rw [keyed] at checked
        cases upgradable : incoming.upgradable with
        | false => simp [upgradable] at checked
        | true =>
            simp only [upgradable, if_true, Except.ok.injEq] at checked
            subst checked
            exact ⟨method, connection, upgrade, version, keyed, upgradable⟩
  · rintro ⟨method, connection, upgrade, version, keyed, upgradable⟩
    refine ⟨method, connection, upgrade, version, ?_⟩
    rw [keyed]
    exact if_pos upgradable

/-- A request for a session of one protocol is in due form, whatever the protocol. -/
theorem wellFormedHandshake_forProtocol (protocol : String) :
    WellFormedHandshake (.forProtocol protocol) (.ofTexts ["a2V5"]) := by
  have same : ∀ name : FieldName, FieldName.socketProtocol ≠ name →
      (Incoming.forProtocol protocol).fields.get? name =
        (Incoming.forProtocol "chat").fields.get? name := by
    intro name apart
    unfold Fields.get? Incoming.forProtocol
    rw [values_setValue_of_ne _ apart, values_setValue_of_ne _ apart]
  have alike : checkHandshake (.forProtocol protocol) = checkHandshake (.forProtocol "chat") := by
    unfold checkHandshake fieldContains fieldEquals
    rw [same .connection (by decide), same .upgrade (by decide), same .socketVersion (by decide),
      same .socketKey (by decide)]
    rfl
  rw [← checkHandshake_eq_ok_iff, alike]
  decide

/-! ### The outcome -/

/-- The request offers a protocol to the server: it stands on a line that can be
read.  What stands on a line with bytes beyond ASCII counts as no offer. -/
def OffersReadably (fields : Fields) (name : String) : Prop :=
  ∃ line ∈ fields.values .socketProtocol, Readable line ∧ Offers line name

/-- The protocol for a request: the first of its offers that is registered, or the
default, if that is registered and there are no offers. -/
inductive Selected (router : Router σ) (fields : Fields) (name : String) : Prop where
  | offered (first : FirstKnown router.server.protocols (offeredProtocols fields) name)
  | byDefault (unoffered : ∀ other, ¬ OffersReadably fields other)
      (standing : router.server.config.websocket.defaultProtocol = some name)
      (known : name ∈ router.server.protocols.names)

theorem offered_iff {fields : Fields} :
    offeredProtocols fields ≠ [] ↔ ∃ name, OffersReadably fields name := by
  constructor
  · intro offered
    obtain ⟨name, member⟩ := List.exists_mem_of_ne_nil _ offered
    exact ⟨name, mem_offeredProtocols_iff.1 member⟩
  · rintro ⟨name, offers⟩
    exact List.ne_nil_of_mem (mem_offeredProtocols_iff.2 offers)

theorem selected_iff {router : Router σ} {fields : Fields} {name : String} :
    Selected router fields name ↔ router.choice (offeredProtocols fields) = some name := by
  unfold Router.choice
  by_cases offered : offeredProtocols fields = []
  · have unoffered : ∀ other, ¬ OffersReadably fields other :=
      fun other offers => offered_iff.2 ⟨other, offers⟩ offered
    rw [offered, negotiate_of_none]
    constructor
    · rintro (⟨before, after, split, -, -⟩ | ⟨-, standing, known⟩)
      · rw [offered] at split
        exact absurd split.symm (List.append_ne_nil_of_right_ne_nil before (List.cons_ne_nil _ _))
      · exact ⟨standing, known⟩
    · rintro ⟨standing, known⟩
      exact .byDefault unoffered standing known
  · rw [negotiate_of_offers _ offered]
    constructor
    · rintro (first | ⟨unoffered, -, -⟩)
      · exact first
      · obtain ⟨other, offers⟩ := offered_iff.1 offered
        exact absurd offers (unoffered other)
    · exact .offered

/-- Once anything is offered readably, only what is offered readably is selected. -/
theorem Selected.offersReadably {router : Router σ} {fields : Fields} {name other : String}
    (selected : Selected router fields name) (offered : OffersReadably fields other) :
    OffersReadably fields name := by
  cases selected with
  | offered first =>
      obtain ⟨before, after, split, -, -⟩ := first
      exact mem_offeredProtocols_iff.1 (by simp [split])
  | byDefault unoffered standing known => exact absurd offered (unoffered other)

/-- The table knows what is selected. -/
theorem Selected.known {router : Router σ} {fields : Fields} {name : String}
    (selected : Selected router fields name) : name ∈ router.server.protocols.names :=
  known_of_choice (selected_iff.1 selected)

/-- The reply that accepts a handshake names the protocol to a client that made an
offer, and to no other. -/
theorem Selected.named_iff_offered {router : Router σ} {fields : Fields} {name : String}
    (selected : Selected router fields name) (key : FieldValue) :
    ((∃ other, OffersReadably fields other) → ∃ value,
        (acceptReply key name (offeredProtocols fields ≠ [])).fields.values .socketProtocol =
          [value] ∧ value.bytes = encode name) ∧
      ((∀ other, ¬ OffersReadably fields other) →
        (acceptReply key name (offeredProtocols fields ≠ [])).fields.values .socketProtocol =
          []) := by
  constructor
  · rintro ⟨other, offers⟩
    -- The protocol was offered itself, so it stood in a field and is a legal value.
    obtain ⟨line, -, -, stands⟩ := selected.offersReadably offers
    obtain ⟨value, legal⟩ := exists_value_of_offers stands
    refine ⟨value, ?_, bytes_of_ofText? legal⟩
    rw [decide_eq_true (offered_iff.2 ⟨other, offers⟩)]
    exact values_acceptReply_offered key name legal
  · intro unoffered
    have nothing : ¬ offeredProtocols fields ≠ [] := by
      intro offered
      obtain ⟨other, offers⟩ := offered_iff.1 offered
      exact unoffered other offers
    rw [decide_eq_false nothing]
    exact values_acceptReply_unoffered key name

/-- What comes of a request for an upgrade: if it lacks a protocol or a due form, a
text that says so, with status 400 if it is the protocol; else the handler of the
protocol is to serve a session. -/
inductive UpgradeOutcome (router : Router σ) (incoming : Incoming) : Upgrade σ → Prop where
  | rejected (status : Status) (message : String)
      (lacking : ¬ ((∃ name, Selected router incoming.fields name) ∧
        ∃ key, WellFormedHandshake incoming key))
      (refused : (∀ name, ¬ Selected router incoming.fields name) → status = .badRequest) :
      UpgradeOutcome router incoming (.rejected (plainReply status message))
  | accepted (name : String) (key : FieldValue) (handler : Handler σ)
      (chosen : Selected router incoming.fields name) (form : WellFormedHandshake incoming key)
      (found : router.server.protocols.get? name = some handler) :
      UpgradeOutcome router incoming
        (.accepted (acceptReply key name (offeredProtocols incoming.fields ≠ [])) name handler)

theorem upgrade_outcome (router : Router σ) (incoming : Incoming) :
    UpgradeOutcome router incoming (router.server.upgrade incoming) := by
  cases chosen : router.choice (offeredProtocols incoming.fields) with
  | none =>
      have unmatched : router.server.upgrade incoming =
          .rejected (plainReply .badRequest "No supported WebSocket protocol") := by
        unfold Router.choice at chosen
        simp [Server.upgrade, chosen]
      rw [unmatched]
      refine .rejected _ _ ?_ fun _ => rfl
      rintro ⟨⟨name, selected⟩, -⟩
      rw [selected_iff.1 selected] at chosen
      cases chosen
  | some name =>
      obtain ⟨handler, found⟩ := exists_handler _ (known_of_choice chosen)
      have selected := selected_iff.2 chosen
      unfold Router.choice at chosen
      cases checked : checkHandshake incoming with
      | error fault =>
          have refused : router.server.upgrade incoming =
              .rejected (plainReply fault.status fault.message) := by
            simp [Server.upgrade, chosen, found, checked]
          rw [refused]
          refine .rejected _ _ ?_ fun unselected => absurd selected (unselected name)
          rintro ⟨-, key, form⟩
          rw [checkHandshake_eq_ok_iff.2 form] at checked
          cases checked
      | ok key =>
          have accepted : router.server.upgrade incoming = .accepted
              (acceptReply key name (offeredProtocols incoming.fields ≠ [])) name handler := by
            simp [Server.upgrade, chosen, found, checked]
          rw [accepted]
          exact .accepted name key handler selected (checkHandshake_eq_ok_iff.1 checked) found

/-- An upgrade that is not accepted leaves no trace: no application code runs, the
application, the open sessions, the numbers given to them and their gauge stay,
and the answer is a text that does not depend on any file. -/
structure LeavesNoTrace (router : Router σ) (incoming : Incoming) (fresh : FieldValue)
    (world : World σ) : Prop where
  answer : ∃ status message, ∀ files, (router.respond files incoming fresh world).1 =
    router.finish incoming fresh (plainReply status message)
  called : ∀ files log, (router.logged.respond files incoming fresh (world.logged log)).2.app =
    (world.app, log)
  app : ∀ files, (router.respond files incoming fresh world).2.app = world.app
  registry : ∀ files, (router.respond files incoming fresh world).2.registry = world.registry
  numbers : ∀ files, (router.respond files incoming fresh world).2.nextSession = world.nextSession
  gauge : ∀ files,
    (router.respond files incoming fresh world).2.metrics.sessions = world.metrics.sessions

/-- An accepted upgrade begins a session with the selected protocol: its handler is
told once, it alone is entered among the open sessions, and the answer names the
protocol to a client that made an offer. -/
structure BeginsSession (router : Router σ) (files : FileSystem) (incoming : Incoming)
    (fresh : FieldValue) (world : World σ) (info : SessionInfo) (handler : Handler σ) : Prop where
  numbered : info.id = world.nextSession
  selected : ∀ name, Selected router incoming.fields name ↔ name = info.protocol
  handled : router.server.protocols.get? info.protocol = some handler
  opened : (router.respond files incoming fresh world).2.app = handler.onOpen info world.app
  called : ∀ log, (router.logged.respond files incoming fresh (world.logged log)).2.app =
    (handler.onOpen info world.app, log ++ [.opened info])
  registered : ∀ id, (router.respond files incoming fresh world).2.registry.get? id =
    if id = info.id then some info else world.registry.get? id
  gauge : ∀ protocol,
    (router.respond files incoming fresh world).2.metrics.sessions.count protocol =
      world.metrics.sessions.count protocol + if info.protocol = protocol then 1 else 0
  status : (router.respond files incoming fresh world).1.status = .switchingProtocols
  named : (∃ name, OffersReadably incoming.fields name) → ∃ value,
    (router.respond files incoming fresh world).1.fields.values .socketProtocol = [value] ∧
      value.bytes = encode info.protocol
  unnamed : (∀ name, ¬ OffersReadably incoming.fields name) →
    (router.respond files incoming fresh world).1.fields.values .socketProtocol = []

section Outcomes

variable {router : Router σ} {incoming : Incoming}

/-- The world that a rejected upgrade leaves has been counted in. -/
theorem dispatch_of_rejected (asks : isUpgradeRequest incoming.fields = true) {reply : Reply}
    (rejected : router.server.upgrade incoming = .rejected reply) (files : FileSystem)
    (world : World σ) :
    router.dispatch files incoming world =
      { reply := reply
        session := none
        world := { world with
          metrics := world.metrics.recordRequest
            { method := incoming.method
              status := reply.status.code
              service := "websocket" } } } := by
  unfold Router.dispatch
  simp only [asks, if_true, rejected]

theorem leavesNoTrace_of_rejected (asks : isUpgradeRequest incoming.fields = true)
    {status : Status} {message : String}
    (rejected : router.server.upgrade incoming = .rejected (plainReply status message))
    (fresh : FieldValue) (world : World σ) : LeavesNoTrace router incoming fresh world := by
  have uncalled : ∀ files, router.invocations files incoming world = [] := by
    intro files
    unfold Router.invocations
    simp only [asks, if_true, rejected]
  have answered : ∀ files, router.respond files incoming fresh world =
      (router.finish incoming fresh (plainReply status message),
        { world with
          metrics := world.metrics.recordRequest
            { method := incoming.method, status := status.code, service := "websocket" } }) := by
    intro files
    rw [Router.respond, dispatch_of_rejected asks rejected]
    rfl
  refine {
    answer := ⟨status, message, fun files => congrArg Prod.fst (answered files)⟩
    called := fun files log => ?_
    app := fun files => congrArg (·.2.app) (answered files)
    registry := fun files => congrArg (·.2.registry) (answered files)
    numbers := fun files => congrArg (·.2.nextSession) (answered files)
    gauge := fun files => congrArg (·.2.metrics.sessions) (answered files) }
  rw [Router.respond_logged, uncalled, List.append_nil, answered]
  rfl

theorem beginsSession_of_accepted (asks : isUpgradeRequest incoming.fields = true) {name : String}
    {key : FieldValue} {handler : Handler σ}
    (accepted : router.server.upgrade incoming = .accepted
      (acceptReply key name (offeredProtocols incoming.fields ≠ [])) name handler)
    (chosen : Selected router incoming.fields name)
    (found : router.server.protocols.get? name = some handler) (files : FileSystem)
    (fresh : FieldValue) (world : World σ) :
    BeginsSession router files incoming fresh world
      { id := world.nextSession, protocol := name, peer := incoming.peer } handler := by
  have reply : (router.dispatch files incoming world).reply =
      acceptReply key name (offeredProtocols incoming.fields ≠ []) := by
    unfold Router.dispatch
    simp only [asks, if_true, accepted]
  have left : (router.respond files incoming fresh world).2 =
      openSession handler { id := world.nextSession, protocol := name, peer := incoming.peer }
        { world with
          nextSession := world.nextSession + 1
          metrics := world.metrics.recordRequest
            { method := incoming.method
              status := (acceptReply key name
                (offeredProtocols incoming.fields ≠ [])).status.code
              service := "websocket" } } := by
    simp only [Router.respond, Router.dispatch, asks, if_true, accepted]
  have called : router.invocations files incoming world =
      [.opened { id := world.nextSession, protocol := name, peer := incoming.peer }] := by
    unfold Router.invocations
    simp only [asks, if_true, accepted]
  have values : (router.respond files incoming fresh world).1.fields.values .socketProtocol =
      (acceptReply key name (offeredProtocols incoming.fields ≠ [])).fields.values
        .socketProtocol := by
    rw [← reply]
    exact values_finish router incoming fresh _ (by decide)
  refine {
    numbered := rfl
    selected := fun other => ?_
    handled := found
    opened := ?_
    called := fun log => ?_
    registered := fun id => ?_
    gauge := fun protocol => ?_
    status := ?_
    named := fun offers => ?_
    unnamed := fun unoffered => ?_ }
  · rw [selected_iff, selected_iff.1 chosen, Option.some.injEq, eq_comm]
  · rw [left]
    rfl
  · rw [Router.respond_logged, called, left]
    rfl
  · rw [left]
    exact Registry.get?_insert world.registry world.metrics _ id
  · rw [left]
    exact Tally.count_bump _ _ _ _
  · exact (status_finish router incoming fresh _).trans (congrArg Reply.status reply)
  · rw [values]
    exact (chosen.named_iff_offered key).1 offers
  · rw [values]
    exact (chosen.named_iff_offered key).2 unoffered

end Outcomes

/-- A demonstration server with this default protocol. -/
def Router.demonstration (protocol : Option String) : Router Demo :=
  let server := (Server.ofConfig default).addDemo
  .standard { server with
    config := { server.config with
      websocket := { server.config.websocket with defaultProtocol := protocol } } }

/-- A session is begun exactly if a protocol is selected and the handshake is in due
form; without a selection the answer is 400 whatever the handshake says; and an
upgrade that begins no session leaves no trace. -/
theorem rejected_handshake_leaves_no_trace (router : Router σ) {incoming : Incoming}
    (asks : FirstIs incoming.fields .upgrade "websocket") (files : FileSystem)
    (fresh : FieldValue) (world : World σ) :
    ((∃ session, (router.dispatch files incoming world).session = some session) ↔
        (∃ name, Selected router incoming.fields name) ∧ ∃ key, WellFormedHandshake incoming key) ∧
      ((∀ name, ¬ Selected router incoming.fields name) →
        (router.respond files incoming fresh world).1.status = .badRequest) ∧
      ((router.dispatch files incoming world).session = none →
        LeavesNoTrace router incoming fresh world) ∧
      ∀ info handler, (router.dispatch files incoming world).session = some (info, handler) →
        BeginsSession router files incoming fresh world info handler := by
  have upgrades := isUpgradeRequest_iff.2 asks
  have outcome := upgrade_outcome router incoming
  generalize answered : router.server.upgrade incoming = upgrade at outcome
  cases outcome with
  | rejected status message lacking refused =>
      have left := dispatch_of_rejected upgrades answered files world
      have unstarted : ∀ session,
          (router.dispatch files incoming world).session ≠ some session := by
        rw [left]
        nofun
      refine ⟨⟨?_, fun complete => absurd complete lacking⟩, fun unselected => ?_, fun _ => ?_, ?_⟩
      · exact fun ⟨session, started⟩ => absurd started (unstarted session)
      · rw [Router.respond, status_finish, left]
        exact refused unselected
      · exact leavesNoTrace_of_rejected upgrades answered fresh world
      · exact fun info handler started => absurd started (unstarted _)
  | accepted name key handler chosen form found =>
      have started : (router.dispatch files incoming world).session = some
          ({ id := world.nextSession, protocol := name, peer := incoming.peer }, handler) := by
        unfold Router.dispatch
        simp only [upgrades, if_true, answered]
      refine ⟨⟨fun _ => ⟨⟨name, chosen⟩, key, form⟩, fun _ => ⟨_, started⟩⟩,
        fun unselected => absurd chosen (unselected name), fun unstarted => ?_, ?_⟩
      · rw [started] at unstarted
        cases unstarted
      · intro info other same
        rw [started] at same
        cases same
        exact beginsSession_of_accepted upgrades answered chosen found files fresh world

/-- The demonstration server refuses a POST that asks for one of its protocols, and a
GET that asks for another one, and begins a session for a GET in due form. -/
theorem rejected_handshake_leaves_no_trace_demo :
    let router := Router.demonstration none
    let world : World Demo := World.initial Demo.initial
    let posted := { Incoming.forProtocol "proto-two" with method := "POST" }
    FirstIs posted.fields .upgrade "websocket" ∧
      LeavesNoTrace router posted (.ofTexts []) world ∧
      (router.respond default (.forProtocol "chat") (.ofTexts []) world).1.status.code = 400 ∧
      ∃ info handler, info.protocol = "proto-two" ∧
        BeginsSession router default (.forProtocol "proto-two") (.ofTexts []) world info
          handler := by
  intro router world posted
  have unknown := wellFormedHandshake_forProtocol "chat"
  have known := wellFormedHandshake_forProtocol "proto-two"
  have asks : FirstIs posted.fields .upgrade "websocket" := known.upgrade
  obtain ⟨started, -, rejected, -⟩ :=
    rejected_handshake_leaves_no_trace router asks default (.ofTexts []) world
  obtain ⟨-, refused, -, -⟩ :=
    rejected_handshake_leaves_no_trace router unknown.upgrade default (.ofTexts []) world
  obtain ⟨begun, -, -, begins⟩ :=
    rejected_handshake_leaves_no_trace router known.upgrade default (.ofTexts []) world
  refine ⟨asks, rejected ?_, ?_, ?_⟩
  · refine Option.eq_none_iff_forall_ne_some.2 fun session same => ?_
    obtain ⟨-, key, form⟩ := started.1 ⟨session, same⟩
    exact absurd form.method (by decide)
  · rw [refused]
    · rfl
    · intro name selected
      have choice := selected_iff.1 selected
      have unchosen :
          router.choice (offeredProtocols (Incoming.forProtocol "chat").fields) = none := by
        decide
      rw [unchosen] at choice
      cases choice
  · have chosen : Selected router (Incoming.forProtocol "proto-two").fields "proto-two" :=
      selected_iff.2 (by decide)
    obtain ⟨⟨info, handler⟩, same⟩ := begun.2 ⟨⟨_, chosen⟩, _, known⟩
    have session := begins info handler same
    exact ⟨info, handler, ((session.selected _).1 chosen).symm, session⟩

/-- An offer that the server cannot read begins a session of the default protocol,
which was not offered, and the answer names no protocol. -/
theorem unread_offer_begins_session :
    (¬ ∀ (router : Router Demo) (incoming : Incoming) (files : FileSystem) (world : World Demo),
      FirstIs incoming.fields .upgrade "websocket" → allOffers incoming.fields ≠ [] →
      (∀ name ∈ router.server.protocols.names, encode name ∉ allOffers incoming.fields) →
      (router.dispatch files incoming world).session = none) ∧
    ¬ ∀ (router : Router Demo) (incoming : Incoming) (files : FileSystem) (fresh : FieldValue)
      (world : World Demo),
      FirstIs incoming.fields .upgrade "websocket" → allOffers incoming.fields ≠ [] →
      (router.respond files incoming fresh world).1.status = .switchingProtocols →
      (router.respond files incoming fresh world).1.fields.values .socketProtocol ≠ [] := by
  let router := Router.demonstration (some "proto-two")
  let incoming := Incoming.forProtocol "é"
  have asks : FirstIs incoming.fields .upgrade "websocket" :=
    (wellFormedHandshake_forProtocol "é").upgrade
  have offers : allOffers incoming.fields = [encode "é"] := by decide
  have offered : allOffers incoming.fields ≠ [] := by
    rw [offers]
    exact List.cons_ne_nil _ _
  constructor
  · intro always
    have unregistered :
        ∀ name ∈ router.server.protocols.names, encode name ∉ allOffers incoming.fields := by
      rw [offers]
      decide
    have unbegun := always router incoming default (World.initial Demo.initial) asks offered
      unregistered
    exact absurd unbegun (by decide)
  · intro always
    have named := always router incoming default (.ofTexts []) (World.initial Demo.initial) asks
      offered (by decide)
    exact absurd named (by decide +kernel)

end WebHost
