/-
Module: WebHost.Proofs.Server.ConfiguredProtocols
Purpose: When the protocols of a configuration that passes its check are reached.
Main exports:
  Server.addProtocols, names_addProtocols, get?_addProtocols, Accepts,
  configured_protocols_reachable, configured_protocol_unreached
-/
import WebHost.Proofs.Config.Accepted
import WebHost.Proofs.Server.Handshake

namespace WebHost

open Text

/-!
The check of a configuration lets through names that a header can carry, each of
them once.  So registering them one after the other merges none of them, a
client can offer any of them on a line, and the server finds it there unless
another one stands before it.  Offers that it reads and does not know change
nothing; one that it cannot read takes all others on its line with it.
-/

variable {σ : Type}

/-! ### Registration -/

/-- Register one handler under each of some names, in their order. -/
def Server.addProtocols (server : Server σ) (names : List String) (handler : Handler σ) :
    Server σ :=
  names.foldl (fun current name => current.addProtocol name handler) server

section Registration

variable (server : Server σ) (handler : Handler σ)

theorem config_addProtocols (names : List String) :
    (server.addProtocols names handler).config = server.config := by
  induction names generalizing server with
  | nil => rfl
  | cons name rest ih => exact ih (server.addProtocol name handler)

/-- Names that are new and different from each other are all added, in their order. -/
theorem names_addProtocols {names : List String} (once : names.Nodup)
    (fresh : ∀ name ∈ names, name ∉ server.protocols.names) :
    (server.addProtocols names handler).protocols.names = server.protocols.names ++ names := by
  induction names generalizing server with
  | nil => exact (List.append_nil _).symm
  | cons name rest ih =>
      obtain ⟨here, there⟩ := List.forall_mem_cons.1 fresh
      obtain ⟨single, distinct⟩ := List.nodup_cons.1 once
      have added : (server.addProtocol name handler).protocols.names =
          server.protocols.names ++ [name] :=
        (names_add name handler server.protocols).trans (if_neg here)
      have still : ∀ other ∈ rest,
          other ∉ (server.addProtocol name handler).protocols.names := by
        intro other member
        rw [added, List.mem_append, List.mem_singleton]
        rintro (known | rfl)
        · exact there other member known
        · exact single member
      exact (ih (server.addProtocol name handler) distinct still).trans (by simp [added])

/-- The handler is found under each of the names, and no other name is touched. -/
theorem get?_addProtocols (names : List String) (name : String) :
    (server.addProtocols names handler).protocols.get? name =
      if name ∈ names then some handler else server.protocols.get? name := by
  induction names generalizing server with
  | nil => rfl
  | cons first rest ih =>
      refine (ih (server.addProtocol first handler)).trans ?_
      have found : (server.addProtocol first handler).protocols.get? name =
          if name = first then some handler else server.protocols.get? name :=
        get?_add first handler server.protocols name
      rw [found]
      by_cases later : name ∈ rest
      · simp [later]
      · simp [later]

end Registration

/-! ### Acceptance -/

/-- An upgrade is accepted with a protocol: it begins a session that the handler is
to serve, whatever happened before. -/
def Accepts (router : Router σ) (incoming : Incoming) (protocol : String) (handler : Handler σ) :
    Prop :=
  ∀ files fresh world, ∃ info, info.protocol = protocol ∧
    (router.dispatch files incoming world).session = some (info, handler) ∧
    BeginsSession router files incoming fresh world info handler

variable {router : Router σ} {incoming : Incoming} {key : FieldValue} {name : String}
  {handler : Handler σ}

theorem accepts_of_selected (form : WellFormedHandshake incoming key)
    (chosen : Selected router incoming.fields name)
    (found : router.server.protocols.get? name = some handler) :
    Accepts router incoming name handler := by
  intro files fresh world
  have upgrades := isUpgradeRequest_iff.2 form.upgrade
  have outcome := upgrade_outcome router incoming
  generalize answered : router.server.upgrade incoming = upgrade at outcome
  cases outcome with
  | rejected status message lacking refused => exact absurd ⟨⟨name, chosen⟩, key, form⟩ lacking
  | accepted other own current selected due known =>
      have same : other = name :=
        Option.some.inj ((selected_iff.1 selected).symm.trans (selected_iff.1 chosen))
      subst same
      obtain rfl : current = handler := Option.some.inj (known.symm.trans found)
      refine ⟨_, rfl, ?_,
        beginsSession_of_accepted upgrades answered chosen found files fresh world⟩
      unfold Router.dispatch
      simp only [upgrades, if_true, answered]

/-- The offers of a request settle on the first of them that is registered. -/
theorem firstKnown_of_offers {fields : Fields} {before after : List Bytes}
    (known : name ∈ router.server.protocols.names)
    (offers : readableOffers fields = before ++ encode name :: after)
    (first : ∀ other ∈ router.server.protocols.names, encode other ∉ before) :
    FirstKnown router.server.protocols (offeredProtocols fields) name := by
  rw [← map_encode_offeredProtocols] at offers
  obtain ⟨earlier, rest, split, rfl, more⟩ := List.map_eq_append_iff.1 offers
  obtain ⟨offer, later, rfl, same, -⟩ := List.map_eq_cons_iff.1 more
  refine ⟨earlier, later, encode_injective same ▸ split, known, fun other stands registered => ?_⟩
  exact first other registered (List.mem_map_of_mem stands)

/-- The names on the line that a client writes are read back as they were. -/
theorem exists_value_of_protocolNames (names : List String)
    (legal : ∀ name ∈ names, isProtocolName name = true) :
    ∃ value, FieldValue.ofText? (offerText names) = some value ∧
      ∀ fields : Fields, fields.values .socketProtocol = [value] →
        offeredProtocols fields = names := by
  by_cases empty : names = []
  · subst empty
    refine ⟨.ofTexts [], by decide, fun fields line => ?_⟩
    unfold offeredProtocols
    rw [line]
    decide
  · obtain ⟨value, written, spread⟩ := exists_value_offerText empty legal
    exact ⟨value, written, fun fields line => offeredProtocols_of_lines (line ▸ spread)⟩

/-- Once a configuration has passed its check and one handler has been registered for
each of its protocols, the table has these protocols and no others; each of them
is given to a handshake in due form that offers it before the others; the default
is given to one that offers nothing; and names that pass the check travel on one
line of a header, none lost, changed or moved. -/
theorem configured_protocols_reachable (server : Server σ) (handler : Handler σ)
    (router : Router σ) {files : FileSystem} (accepted : server.config.faults files = [])
    (unregistered : server.protocols = .empty)
    (started : router.server =
      server.addProtocols server.config.websocket.protocols handler) :
    router.server.protocols.names = server.config.websocket.protocols ∧
      (∀ name ∈ server.config.websocket.protocols,
        router.server.protocols.get? name = some handler ∧
        ∀ incoming key before after, WellFormedHandshake incoming key →
          readableOffers incoming.fields = before ++ encode name :: after →
          (∀ other ∈ server.config.websocket.protocols, encode other ∉ before) →
          Accepts router incoming name handler) ∧
      (∀ name, server.config.websocket.defaultProtocol = some name →
        ∀ incoming key, WellFormedHandshake incoming key →
          (∀ line ∈ incoming.fields.values .socketProtocol,
            OffersAnything line → ¬ Readable line) →
          Accepts router incoming name handler) ∧
      ∀ names : List String, (∀ name ∈ names, isProtocolName name = true) →
        ∃ value, FieldValue.ofText? (offerText names) = some value ∧
          ∀ fields : Fields, fields.values .socketProtocol = [value] →
            offeredProtocols fields = names := by
  have passed := (faults_eq_nil_iff files server.config).1 accepted
  have names : router.server.protocols.names = server.config.websocket.protocols := by
    rw [started, names_addProtocols server handler passed.protocolsOnce, unregistered]
    · rfl
    · rw [unregistered]
      exact fun _ _ => List.not_mem_nil
  have found : ∀ name ∈ server.config.websocket.protocols,
      router.server.protocols.get? name = some handler := by
    intro name member
    rw [started, get?_addProtocols, if_pos member]
  refine ⟨names, fun name member => ⟨found name member, ?_⟩, ?_, exists_value_of_protocolNames⟩
  · intro incoming key before after form offers first
    have selected : Selected router incoming.fields name :=
      .offered (firstKnown_of_offers (names ▸ member) offers (names ▸ first))
    exact accepts_of_selected form selected (found name member)
  · intro name standing incoming key form unoffered
    have member := passed.defaultProtocol name standing
    have own : router.server.config.websocket.defaultProtocol = some name := by
      rw [started, config_addProtocols]
      exact standing
    have selected : Selected router incoming.fields name := by
      rw [selected_iff, offeredProtocols_eq_nil_iff.2 unoffered]
      exact (negotiate_of_none _ _ _).2 ⟨own, names ▸ member⟩
    exact accepts_of_selected form selected (found name member)

/-- The demonstration server gives its second protocol to a client that offers it
after an unknown one. -/
theorem configured_protocols_reachable_demo :
    let server : Server Demo := (Server.ofConfig .standard).addDemo
    let router : Router Demo := .standard server
    server.config.faults default = [] ∧
      router.server.protocols.names = ["websocket-protocol", "proto-two"] ∧
      Accepts router (.forProtocol "chat, proto-two") "proto-two" echoHandler := by
  intro server router
  let bare : Server Demo := { server with protocols := .empty }
  have accepted : bare.config.faults default = [] := faults_standard default
  obtain ⟨names, reached, -, -⟩ :=
    configured_protocols_reachable bare echoHandler router accepted rfl rfl
  have form := wellFormedHandshake_forProtocol "chat, proto-two"
  have offers : readableOffers (Incoming.forProtocol "chat, proto-two").fields =
      [encode "chat", encode "proto-two"] := by decide +kernel
  obtain ⟨-, accepts⟩ := reached "proto-two" (by decide)
  exact ⟨accepted, names, accepts _ _ [encode "chat"] [] form offers (by decide)⟩

/-- An unknown name beyond ASCII keeps the configured ones on its line from being
reached. -/
theorem configured_protocol_unreached :
    ¬ ∀ (server : Server Demo) (handler : Handler Demo) (router : Router Demo) (files : FileSystem),
      server.config.faults files = [] → server.protocols = .empty →
      router.server = server.addProtocols server.config.websocket.protocols handler →
      ∀ name ∈ server.config.websocket.protocols, ∀ incoming key before after,
        WellFormedHandshake incoming key →
        allOffers incoming.fields = before ++ encode name :: after →
        (∀ other ∈ server.config.websocket.protocols, encode other ∉ before) →
        Accepts router incoming name handler := by
  intro always
  let server : Server Demo := (Server.ofConfig .standard).addDemo
  let bare : Server Demo := { server with protocols := .empty }
  let router : Router Demo := .standard server
  let incoming := Incoming.forProtocol "é, proto-two"
  have accepted : bare.config.faults default = [] := faults_standard default
  have form := wellFormedHandshake_forProtocol "é, proto-two"
  have offers : allOffers incoming.fields = [encode "é", encode "proto-two"] := by decide +kernel
  have accepts := always bare echoHandler router default accepted rfl rfl "proto-two" (by decide)
    incoming _ [encode "é"] [] form offers (by decide)
  obtain ⟨info, -, begun, -⟩ := accepts default (.ofTexts []) (World.initial Demo.initial)
  have unbegun :
      (router.dispatch default incoming (World.initial Demo.initial)).session = none := by
    decide
  rw [unbegun] at begun
  cases begun

end WebHost
