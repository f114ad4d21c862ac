/-
Module: WebHost.Proofs.Server.EchoServer
Purpose: The demonstration server, its sessions and their clients.
Main exports:
  LeavesEcho, leavesEcho_addDemo, LeavesEcho.echoOnly, echo_accounts_in_every_run
-/
import WebHost.Proofs.Protocol.Table
import WebHost.Proofs.Server.Traffic
import WebHost.Proofs.Service.Registrations
import WebHost.Proofs.Session.Accounts
import WebHost.Proofs.Session.Client

namespace WebHost

/-!
On the demonstration server every protocol is the echo protocol, and no entry
point touches what that remembers.  So the accounts hold in every run of it, and
a client that sends its greeting only is sent one greeting at most.
-/

/-! ### The demonstration server -/

/-- An entry point does not touch what the echo protocol remembers. -/
def EchoFree (run : EntryPoint Demo) : Prop :=
  ∀ request response (demo : Demo), demo.SameEcho (run request response demo).2

/-- Every protocol of a server is the echo protocol, and its entry points leave
that alone. -/
structure LeavesEcho (server : Server Demo) : Prop where
  entries : ∀ service ∈ server.services, ∀ entry ∈ service.entries, EchoFree entry.2
  handlers : ∀ entry ∈ server.protocols.entries, entry.2 = echoHandler

/-- The entry points of a demonstration service count their own calls only. -/
theorem echoFree_demoService (name stem : String) :
    ∀ entry ∈ (demoService name stem).entries, EchoFree entry.2 := by
  intro entry member
  have kinds : entry.2 = demoDelete ∨ entry.2 = demoPut ∨ entry.2 = demoPost ∨
      entry.2 = demoGet := by
    refine (mem_insertEntry member).imp (congrArg Prod.snd) fun member => ?_
    refine (mem_insertEntry member).imp (congrArg Prod.snd) fun member => ?_
    refine (mem_insertEntry member).imp (congrArg Prod.snd) fun member => ?_
    exact (mem_insertEntry member).elim (congrArg Prod.snd) nofun
  intro request response demo
  rcases kinds with kind | kind | kind | kind
  all_goals
    rw [kind]
    exact { Demo.SameEcho.refl demo with }

namespace LeavesEcho

variable {server : Server Demo}

theorem ofConfig (config : Config) : LeavesEcho (Server.ofConfig config) where
  entries := nofun
  handlers := nofun

theorem addService (leaves : LeavesEcho server) {service : Service Demo}
    (quiet : ∀ entry ∈ service.entries, EchoFree entry.2) :
    LeavesEcho (server.addService service).2 where
  entries := by
    intro mounted member
    rcases List.mem_append.1 member with earlier | new
    · exact leaves.entries mounted (List.mem_filter.1 earlier).1
    · rw [List.mem_singleton.1 new]
      exact quiet
  handlers := leaves.handlers

theorem addProtocol (leaves : LeavesEcho server) (name : String) :
    LeavesEcho (server.addProtocol name echoHandler) where
  entries := leaves.entries
  handlers := fun entry member => (mem_addEntry member).elim id (leaves.handlers entry)

theorem addProtocols (leaves : LeavesEcho server) (names : List String) :
    LeavesEcho (names.foldl (fun current name => current.addProtocol name echoHandler) server) := by
  induction names generalizing server with
  | nil => exact leaves
  | cons name rest ih => exact ih (leaves.addProtocol name)

end LeavesEcho

theorem leavesEcho_addDemo (config : Config) : LeavesEcho (Server.ofConfig config).addDemo :=
  (((LeavesEcho.ofConfig config).addService (echoFree_demoService "webservice" "")).addService
    (echoFree_demoService "web" "some_")).addProtocols _

section Requests

variable {router : Router Demo} {files : FileSystem} {incoming : Incoming}

theorem LeavesEcho.entry (leaves : LeavesEcho router.server) {name path : String}
    {method : Method} {run : EntryPoint Demo}
    (routed : router.server.route files incoming = .entry name path method run) :
    EchoFree run := by
  cases route_eq_iff_routed.1 routed with
  | entry _ _ _ _ _ _ _ _ found =>
      obtain ⟨-, mounted, registered, lookup⟩ := entry?_eq_some_iff_split.1 found
      obtain ⟨before, after, same, -⟩ := List.lookup_eq_some_iff.1 lookup
      have member : ((method, path), run) ∈ mounted.entries := by
        rw [same]
        exact List.mem_append_right before List.mem_cons_self
      exact leaves.entries mounted (List.mem_of_find?_eq_some registered) _ member

/-- No request without an upgrade touches what the echo protocol remembers. -/
theorem LeavesEcho.answer (leaves : LeavesEcho router.server) (demo : Demo) :
    demo.SameEcho (router.server.answer files incoming demo).2.2 := by
  unfold Server.answer
  cases routed : router.server.route files incoming with
  | methodNotAllowed => exact .refl demo
  | undecodable => exact .refl demo
  | resource location => exact .refl demo
  | unmatched => exact .refl demo
  | entry name path method run =>
      simp only [Server.answerEntry]
      split
      · exact .refl demo
      · exact leaves.entry routed _ _ demo

theorem LeavesEcho.serve (leaves : LeavesEcho router.server) (world : World Demo) :
    world.app.SameEcho (router.serve files incoming world).app := by
  unfold Router.serve
  dsimp only
  split
  · split <;> exact .refl world.app
  · exact leaves.answer world.app

/-- The handler of a session that starts is the one of its protocol. -/
theorem get?_of_upgrade {σ : Type} {server : Server σ} {reply : Reply} {protocol : String}
    {handler : Handler σ} (accepted : server.upgrade incoming = .accepted reply protocol handler) :
    server.protocols.get? protocol = some handler := by
  unfold Server.upgrade at accepted
  dsimp only at accepted
  split at accepted
  · cases accepted
  · rename_i chosen
    obtain ⟨name, -, chosen⟩ := Option.bind_eq_some_iff.1 chosen
    obtain ⟨found, registered, same⟩ := Option.bind_eq_some_iff.1 chosen
    cases same
    split at accepted
    · cases accepted
    · cases accepted
      exact registered

/-- Every session that starts speaks the echo protocol. -/
theorem LeavesEcho.handler_eq (leaves : LeavesEcho router.server) {world : World Demo}
    {info : SessionInfo} {handler : Handler Demo}
    (starts : (router.dispatch files incoming world).session = some (info, handler)) :
    handler = echoHandler := by
  unfold Router.dispatch at starts
  dsimp only at starts
  split at starts
  · split at starts
    · cases starts
    · rename_i upgraded
      cases starts
      obtain ⟨before, after, same, -⟩ := List.lookup_eq_some_iff.1 (get?_of_upgrade upgraded)
      exact leaves.handlers _ (same ▸ List.mem_append_right before List.mem_cons_self)
  · cases starts

/-- Around the sessions of such a server, the echo protocol is left alone. -/
theorem LeavesEcho.echoOnly (leaves : LeavesEcho router.server) : EchoOnly router.environment where
  changes := by
    rintro before exchange after ⟨-, -, rfl⟩
    exact leaves.serve before
  accepts := by
    rintro before exchange info handler after ⟨-, starts, rfl⟩
    exact ⟨leaves.handler_eq starts, leaves.serve before⟩

end Requests

/-! ### The accounts in every run -/

/-- What comes to a client is no more than the server has sent, that no more than
it has read, and that no more than the client has sent. -/
theorem EchoInvariant.came_le {ρ : Type} {system : System Demo ρ} (holds : EchoInvariant system)
    {id : SessionId} {acts : List ClientAct} {stream : List StreamEvent}
    (linked : Linked (system.life id) acts stream) :
    (stream.filterMap StreamEvent.frame?).length ≤
      (acts.filterMap ClientAct.sentFrame?).length := by
  calc (stream.filterMap StreamEvent.frame?).length
      ≤ (framesSent (actsOf (system.life id))).length := linked.toClient.length_le
    _ ≤ (framesRead (actsOf (system.life id))).length := (holds.account id).sent_le
    _ = ((eventsOf (system.life id)).filterMap SessionEvent.frame?).length :=
        congrArg List.length (holds.reads id)
    _ ≤ (acts.filterMap ClientAct.sentFrame?).length := linked.toServer.length_le

/-- In every run in which all sessions speak the echo protocol, the accounts of
all of them and the totals hold, and a client at the other end of one of them
gets one frame at most. -/
theorem echo_accounts_in_every_run {ρ : Type} {around : Environment Demo ρ}
    (only : EchoOnly around) {system : System Demo ρ}
    (reachable : Reachable around (System.start (World.initial Demo.initial)) system) :
    (∀ id, EchoAccount system id) ∧ EchoTotals system ∧
      ∀ id, ∀ {τ : Type} (onMessage : Frame → τ → Bool × τ) (protocol : Option String)
        (greeting : String) (greetingSent : Bool) (stream : List StreamEvent) (state : τ),
        let run := runClientSession onMessage protocol greeting greetingSent stream state
        Linked (system.life id) run.1 stream →
          (stream.filterMap StreamEvent.frame?).length ≤ 1 ∧
          (run.1.filterMap ClientAct.deliveredFrame?).length ≤ 1 ∧
          ∀ summary, run.2.1 = .finished summary → summary.framesReceived ≤ 1 := by
  have holds := reachable_echo only reachable
  refine ⟨holds.account, holds.totals, ?_⟩
  intro id τ onMessage protocol greeting greetingSent stream state run linked
  have came := holds.came_le linked
  have sent : run.1.filterMap ClientAct.sentFrame? = _ :=
    runClientSession_sent onMessage protocol greeting greetingSent stream state
  have once : (stream.filterMap StreamEvent.frame?).length ≤ 1 := by
    rw [sent] at came
    cases greetingSent with
    | true => exact came
    | false => exact Nat.le_succ_of_le came
  obtain ⟨delivered, told⟩ :=
    runClientSession_received onMessage protocol greeting greetingSent stream state
  have received := Nat.le_trans delivered.length_le once
  refine ⟨once, received, fun summary finished => ?_⟩
  rw [told summary finished]
  exact received

/-- A client of the demonstration server sends its greeting and is answered. -/
theorem echo_accounts_in_every_run_greeting :
    let router : Router Demo := .standard (Server.ofConfig default).addDemo
    let stream : List StreamEvent := [.frame (.text echoGreeting), .ended]
    let client := runClientSession (fun _ state => (true, state)) none "hi" true stream ()
    EchoOnly router.environment ∧
      ∃ system : System Demo Exchange,
        Reachable router.environment (System.start (World.initial Demo.initial)) system ∧
        Linked (system.life 1) client.1 stream ∧
        client.2.1 =
          .finished { protocol := none, framesReceived := 1, closeReason := none } ∧
        (∀ summary, client.2.1 = .finished summary → summary.framesReceived ≤ 1) ∧
        EchoAccount system 1 ∧ system.world.app.owed? 1 = some 0 ∧
        system.world.app.texts = ["hi"] := by
  intro router stream client
  have only : EchoOnly router.environment := (leavesEcho_addDemo default).echoOnly
  let incoming := Incoming.forProtocol "proto-two"
  let info : SessionInfo := { id := 1, protocol := "proto-two", peer := none }
  let before := World.initial Demo.initial
  let exchange : Exchange :=
    { files := default
      incoming := incoming
      reply := (router.dispatch default incoming before).reply }
  have starts : (router.dispatch default incoming before).session = some (info, echoHandler) := by
    have known : (router.dispatch default incoming before).session.map (·.1) = some info := by
      decide +kernel
    obtain ⟨⟨_, handler⟩, starts, rfl⟩ := Option.map_eq_some_iff.1 known
    rw [starts, (leavesEcho_addDemo default).handler_eq starts]
  obtain ⟨system, run⟩ := runSession_reachable
    (show router.environment.accepts before exchange info echoHandler
      (router.serve default incoming before) from ⟨rfl, starts, rfl⟩)
    [.text "hi", .tick true, .tick true]
  obtain ⟨accounts, -, clients⟩ := echo_accounts_in_every_run only run.reachable
  have acts : actsOf (system.life 1) = [.opened, .read (.text "hi") true,
      .polled (some (.text echoGreeting)), .sent (.text echoGreeting) true, .polled none] :=
    run.acts
  have events : eventsOf (system.life 1) = [.text "hi", .tick true, .tick true] :=
    run.all_taken rfl
  have linked : Linked (system.life 1) client.1 stream :=
    { toServer := by rw [events]; exact List.prefix_refl [Frame.text "hi"]
      toClient := by rw [acts]; exact List.prefix_refl [Frame.text echoGreeting] }
  obtain ⟨-, -, once⟩ := clients 1 _ none "hi" true stream () linked
  refine ⟨only, system, run.reachable, linked, rfl, once, accounts 1, ?_, ?_⟩
  · rw [(accounts 1).owed, acts]
    rfl
  · rw [run.world_eq]
    decide +kernel

end WebHost
