/-
Module: WebHost.Proofs.Server.DefaultProtocol
Purpose: When the default protocol takes the place of what a client offers.
Main exports:
  default_yields_to_readable_offers, default_rescues_unreadable_offer
-/
import WebHost.Proofs.Server.Handshake

namespace WebHost

open Text

/-!
The default is for clients that offer nothing.  The server tells that from the
lines that it can read: one such line with anything on it keeps the default
away, known or unknown as its offers may be.  If every line that offers anything
holds a byte beyond ASCII, though, the server takes the client to have offered
nothing, and the default stands in.
-/

variable {σ : Type} {router : Router σ} {incoming : Incoming}

/-- Without a protocol for it, a request for an upgrade is refused. -/
theorem refused_of_unselected (asks : FirstIs incoming.fields .upgrade "websocket")
    (unselected : ∀ name, ¬ Selected router incoming.fields name) (files : FileSystem)
    (fresh : FieldValue) (world : World σ) :
    (router.dispatch files incoming world).session = none ∧
      (router.respond files incoming fresh world).1.status = .badRequest := by
  have outcome := upgrade_outcome router incoming
  generalize answered : router.server.upgrade incoming = upgrade at outcome
  cases outcome with
  | rejected status message lacking refused =>
      have left := dispatch_of_rejected (isUpgradeRequest_iff.2 asks) answered files world
      constructor
      · rw [left]
      · rw [Router.respond, status_finish, left]
        exact refused unselected
  | accepted name key handler chosen form found => exact absurd chosen (unselected name)

/-- If a readable line offers anything, then only a protocol on a readable line is
chosen, the default no more than any other, and an upgrade is refused unless one
of them is registered.  If no line that offers anything is readable, then the
default is chosen, provided that it is registered. -/
theorem default_yields_to_readable_offers (router : Router σ) (incoming : Incoming) :
    ((∃ line ∈ incoming.fields.values .socketProtocol, OffersAnything line ∧ Readable line) →
        (∀ name, router.choice (offeredProtocols incoming.fields) = some name →
          ∃ line ∈ incoming.fields.values .socketProtocol, Readable line ∧ Offers line name) ∧
        ((∀ line ∈ incoming.fields.values .socketProtocol, Readable line →
            ∀ name, Offers line name → name ∉ router.server.protocols.names) →
          router.choice (offeredProtocols incoming.fields) = none ∧
          (FirstIs incoming.fields .upgrade "websocket" → ∀ files fresh world,
            (router.dispatch files incoming world).session = none ∧
              (router.respond files incoming fresh world).1.status = .badRequest))) ∧
      ((∀ line ∈ incoming.fields.values .socketProtocol, OffersAnything line → ¬ Readable line) →
        ∀ name, router.choice (offeredProtocols incoming.fields) = some name ↔
          router.server.config.websocket.defaultProtocol = some name ∧
            name ∈ router.server.protocols.names) := by
  constructor
  · rintro ⟨line, among, anything, readable⟩
    obtain ⟨other, offers⟩ := (offersAnything_iff readable).1 anything
    have offered : OffersReadably incoming.fields other := ⟨line, among, readable, offers⟩
    have own : ∀ name, Selected router incoming.fields name →
        OffersReadably incoming.fields name :=
      fun name selected => selected.offersReadably offered
    refine ⟨fun name chosen => own name (selected_iff.2 chosen), fun unknown => ?_⟩
    have unselected : ∀ name, ¬ Selected router incoming.fields name := by
      intro name selected
      obtain ⟨line, among, readable, offers⟩ := own name selected
      exact unknown line among readable name offers selected.known
    constructor
    · refine Option.eq_none_iff_forall_ne_some.2 fun name chosen => ?_
      exact unselected name (selected_iff.2 chosen)
    · exact fun asks files fresh world => refused_of_unselected asks unselected files fresh world
  · intro unreadable name
    rw [offeredProtocols_eq_nil_iff.2 unreadable]
    exact negotiate_of_none _ _ _

/-- The default does not stand in for an offer that the server can read and does not
know. -/
theorem default_yields_to_readable_offers_demo :
    let router := Router.demonstration (some "proto-two")
    let incoming := Incoming.forProtocol "chat"
    (∃ line ∈ incoming.fields.values .socketProtocol, OffersAnything line ∧ Readable line) ∧
      (∀ line ∈ incoming.fields.values .socketProtocol, Readable line →
        ∀ name, Offers line name → name ∉ router.server.protocols.names) ∧
      FirstIs incoming.fields .upgrade "websocket" ∧
      (router.dispatch default incoming (World.initial Demo.initial)).session = none := by
  intro router incoming
  have offered : ∃ line ∈ incoming.fields.values .socketProtocol,
      OffersAnything line ∧ Readable line :=
    ⟨.ofTexts ["chat"], by decide, ⟨99, by decide, by decide, rfl⟩, ascii_of_all (by decide)⟩
  have unknown : ∀ line ∈ incoming.fields.values .socketProtocol, Readable line →
      ∀ name, Offers line name → name ∉ router.server.protocols.names := by
    intro line among readable name offers
    have member := mem_offeredProtocols_iff.2 ⟨line, among, readable, offers⟩
    have only : offeredProtocols incoming.fields = ["chat"] := by decide
    rw [only, List.mem_singleton] at member
    subst member
    decide
  have asks : FirstIs incoming.fields .upgrade "websocket" :=
    (wellFormedHandshake_forProtocol "chat").upgrade
  obtain ⟨yields, -⟩ := default_yields_to_readable_offers router incoming
  obtain ⟨-, refused⟩ := (yields offered).2 unknown
  exact ⟨offered, unknown, asks, (refused asks default (.ofTexts []) _).1⟩

/-- An offer beyond ASCII is not seen, and the default stands in for it. -/
theorem default_rescues_unreadable_offer :
    ¬ ∀ (router : Router Demo) (incoming : Incoming),
      (∃ line ∈ incoming.fields.values .socketProtocol, OffersAnything line) →
      (∀ name, router.server.config.websocket.defaultProtocol = some name →
        router.choice (offeredProtocols incoming.fields) = some name →
        ∃ line ∈ incoming.fields.values .socketProtocol, Offers line name) ∧
      ((∀ line ∈ incoming.fields.values .socketProtocol, ∀ name, Offers line name →
          name ∉ router.server.protocols.names) →
        router.choice (offeredProtocols incoming.fields) = none) := by
  intro always
  obtain ⟨offers, -⟩ := always (.demonstration (some "proto-two")) (.forProtocol "é")
    ⟨.ofTexts ["é"], by decide, 0xC3, by decide, by decide, rfl⟩
  have member := mem_allOffers_iff.2 (offers "proto-two" rfl (by decide))
  have only : allOffers (Incoming.forProtocol "é").fields = [encode "é"] := by decide
  rw [only] at member
  exact absurd member (by decide)

end WebHost
