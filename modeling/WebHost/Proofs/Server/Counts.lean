/-
Module: WebHost.Proofs.Server.Counts
Purpose: The counts of a server tell what has happened, in every run.
Main exports:
  System.openUnder, CountsInvariant, reachable_counts, metrics_agree_in_every_run
-/
import Mathlib.Data.Set.Card
import WebHost.Demo
import WebHost.Proofs.Server.Traffic
import WebHost.Proofs.Session.Record

namespace WebHost

open Number

/-!
Three kinds of counts stand side by side: requests, which are counted as they
are answered; frames, which are counted as sessions move them; and open
sessions, which are counted as they enter and leave the registry.  One invariant
says that each of them agrees with the history and with the registry, and every
step of a server in use keeps it, because each step moves at most one of them.
-/

variable {σ : Type} {router : Router σ}

/-- The sessions of a protocol that have entered the registry and not left it. -/
def System.openUnder {ρ : Type} (system : System σ ρ) (protocol : String) : Set SessionId :=
  { id | ∃ task, system.tasks id = some task ∧ task.phase.isListed = true ∧
      task.info.protocol = protocol }

/-- The requests that were answered with a label. -/
def System.answered (router : Router σ) (system : System σ Exchange) (label : RequestLabel) : Nat :=
  (system.surroundings.map (Exchange.label router)).count label

/-- What holds of the counts in every run: they agree with the history and the
registry, which knows no session without a task. -/
structure CountsInvariant (router : Router σ) (system : System σ Exchange) : Prop where
  sessions : SystemInvariant system
  requests : ∀ label,
    system.world.metrics.requests.count label = (system.answered router label : Int)
  frames : ∀ direction,
    system.world.metrics.frames.count direction = (framesMoved system.acts direction : Int)
  gauged : Gauged system.world.registry system.world.metrics
  owned : ∀ id, system.tasks id = none → system.world.registry.get? id = none

section Steps

variable {system next : System σ Exchange}

theorem start_counts (app : σ) : CountsInvariant router (System.start (World.initial app)) where
  sessions := start_invariant fun _ _ => rfl
  requests := fun _ => rfl
  frames := fun _ => rfl
  gauged := gauged_empty
  owned := fun _ _ => rfl

/-- A request that has been answered is counted once, under its label. -/
theorem count_serve (router : Router σ) (files : FileSystem) (incoming : Incoming) (world : World σ)
    (label : RequestLabel) :
    (router.serve files incoming world).metrics.requests.count label =
      world.metrics.requests.count label +
        if router.label files incoming world = label then 1 else 0 :=
  Tally.count_bump (router.label files incoming world) label 1 world.metrics.requests

theorem count_serve_answered (holds : CountsInvariant router system) {exchange : Exchange}
    (replied : exchange.reply =
      (router.dispatch exchange.files exchange.incoming system.world).reply)
    (recorded : next.surroundings = system.surroundings ++ [exchange]) (label : RequestLabel) :
    (router.serve exchange.files exchange.incoming system.world).metrics.requests.count label =
      (next.answered router label : Int) := by
  have same : router.label exchange.files exchange.incoming system.world =
      exchange.label router := by
    rw [Router.label, Exchange.label, replied]
  rw [count_serve, same, holds.requests, System.answered, System.answered, recorded,
    List.map_append, List.count_append, List.map_singleton, List.count_singleton]
  by_cases counted : exchange.label router = label <;> simp [counted]

theorem change_counts (holds : CountsInvariant router system) {exchange : Exchange}
    {world : World σ} (changed : router.environment.changes system.world exchange world) :
    CountsInvariant router
      { system with world := world, history := system.history ++ [.around exchange] } := by
  have sessions := change_invariant holds.sessions changed
  obtain ⟨replied, -, rfl⟩ := changed
  exact {
    sessions := sessions
    requests := count_serve_answered holds replied (system.surroundings_around _ exchange)
    frames := fun direction => by
      rw [System.acts_around]
      exact holds.frames direction
    gauged := holds.gauged.congr registry_serve rfl
    owned := fun id absent => by
      rw [registry_serve]
      exact holds.owned id absent }

theorem accept_counts (holds : CountsInvariant router system) {exchange : Exchange}
    {info : SessionInfo} {handler : Handler σ} {world : World σ}
    (accepted : router.environment.accepts system.world exchange info handler world) :
    CountsInvariant router
      (system.put { info := info, handler := handler, phase := .accepted } world
        [.around exchange]) := by
  have sessions := accept_invariant holds.sessions accepted
  obtain ⟨replied, -, rfl⟩ := accepted
  refine {
    sessions := sessions
    requests := count_serve_answered holds replied (system.surroundings_put_around _ _ exchange)
    frames := fun direction => ?_
    gauged := holds.gauged.congr registry_serve rfl
    owned := fun id absent => ?_ }
  · rw [System.acts_put_around]
    exact holds.frames direction
  · obtain ⟨-, unknown⟩ := System.tasks_put_eq_none absent
    exact (congrArg (·.get? id) registry_serve).trans (holds.owned id unknown)

theorem move_counts (holds : CountsInvariant router system) {task : SessionTask σ} {phase : Phase}
    {world : World σ} {happened : List Happening}
    (found : system.tasks task.info.id = some task)
    (moves : Moves task.handler task.info task.phase system.world phase world happened) :
    CountsInvariant router
      (system.put { task with phase := phase } world
        (happened.map fun happening =>
          .session task.info.id happening system.world.registry)) := by
  have grown := moves_grown moves
  have listed := (holds.sessions.sessions task.info.id).listed task found
  have acts := system.acts_put_own { task with phase := phase } world happened
    system.world.registry
  have answered := system.surroundings_put_own { task with phase := phase } world happened
    system.world.registry
  dsimp only at acts answered
  refine {
    sessions := move_invariant holds.sessions found moves
    requests := fun label => ?_
    frames := fun direction => ?_
    gauged := moves_gauged moves listed holds.gauged
    owned := fun id absent => ?_ }
  · rw [System.answered, answered]
    exact (congrArg (Tally.count · label) grown.requests).trans (holds.requests label)
  · rw [acts, framesMoved_append]
    have counted := grown.frames direction
    rw [holds.frames] at counted
    exact counted
  · obtain ⟨apart, unknown⟩ := System.tasks_put_eq_none absent
    exact ((moves_registry moves).1 id apart).trans (holds.owned id unknown)

/-- Every step keeps the counts. -/
theorem step_counts (holds : CountsInvariant router system)
    (step : Step router.environment system next) : CountsInvariant router next := by
  cases step with
  | change label world changed => exact change_counts holds changed
  | accept label info handler world accepted => exact accept_counts holds accepted
  | move task phase world happened found moves => exact move_counts holds found moves

/-- So every run does. -/
theorem reachable_counts {app : σ}
    (reachable : Reachable router.environment (System.start (World.initial app)) system) :
    CountsInvariant router system := by
  induction reachable with
  | refl => exact start_counts app
  | step _ step holds => exact step_counts holds step

end Steps

/-! ### Sessions in the registry -/

section Registered

variable {system : System σ Exchange}

/-- A session is in the registry as long as it has entered it and not left it. -/
theorem mem_openUnder_iff (holds : CountsInvariant router system) {protocol : String}
    {id : SessionId} : id ∈ system.openUnder protocol ↔
      ∃ info, system.world.registry.get? id = some info ∧ info.protocol = protocol := by
  constructor
  · rintro ⟨task, found, listed, spoken⟩
    have entry := (holds.sessions.sessions id).listed task found
    rw [Phase.listing, if_pos listed] at entry
    exact ⟨task.info, entry, spoken⟩
  · rintro ⟨info, entry, spoken⟩
    cases found : system.tasks id with
    | none =>
        rw [holds.owned id found] at entry
        cases entry
    | some task =>
        have listed := (holds.sessions.sessions id).listed task found
        rw [entry] at listed
        obtain ⟨phase, same⟩ := Option.ite_none_right_eq_some.1 listed.symm
        cases same
        exact ⟨task, found, phase, spoken⟩

/-- The registry lists each open session of a protocol once. -/
theorem ncard_openUnder (holds : CountsInvariant router system) (protocol : String) :
    (system.openUnder protocol).ncard = system.world.registry.countProtocol protocol := by
  have listing : ((system.world.registry.sessions.filter (·.2.protocol = protocol)).map
      (·.1)).Nodup :=
    List.Sublist.nodup (List.Sublist.map _ List.filter_sublist) holds.gauged.distinct
  have same : system.openUnder protocol =
      ((system.world.registry.sessions.filter (·.2.protocol = protocol)).map (·.1)).toFinset := by
    ext id
    rw [mem_openUnder_iff holds, Finset.mem_coe, List.mem_toFinset, List.mem_map]
    constructor
    · rintro ⟨info, entry, spoken⟩
      have member := (lookup_eq_some_iff_mem holds.gauged.distinct).1 entry
      exact ⟨(id, info), List.mem_filter.2 ⟨member, by simpa using spoken⟩, rfl⟩
    · rintro ⟨⟨number, info⟩, member, rfl⟩
      obtain ⟨member, spoken⟩ := List.mem_filter.1 member
      exact ⟨info, (lookup_eq_some_iff_mem holds.gauged.distinct).2 member, by simpa using spoken⟩
  rw [same, Set.ncard_coe_finset, List.toFinset_card_of_nodup listing, List.length_map]
  rfl

/-- The numbers in the registry have been given out. -/
theorem listed_lt (holds : CountsInvariant router system) {entry : SessionId × SessionInfo}
    (member : entry ∈ system.world.registry.sessions) : entry.1 < system.world.nextSession := by
  apply Nat.lt_of_not_le
  intro unborn
  have found : system.world.registry.get? entry.1 = some entry.2 :=
    (lookup_eq_some_iff_mem holds.gauged.distinct).2 member
  have absent := ((holds.sessions.sessions entry.1).fresh unborn).2
  exact absurd (absent.symm.trans found) (by simp)

end Registered

/-! ### The counts of a server in use -/

/-- A request is counted once: by its method, by the status of its answer and by
what has answered it. -/
structure RequestCounted (router : Router σ) (files : FileSystem) (incoming : Incoming)
    (world : World σ) : Prop where
  once : ∀ label,
    (router.dispatch files incoming world).world.metrics.requests.count label =
      world.metrics.requests.count label +
        if { method := incoming.method
             status := (router.dispatch files incoming world).reply.status.code
             service := (router.tag files incoming).text } = label then 1 else 0
  byUpgrade : router.tag files incoming = .websocket ↔ isUpgradeRequest incoming.fields = true
  byFile : router.tag files incoming = .static ↔
    isUpgradeRequest incoming.fields = false ∧ FileResolves router.server files incoming
  byService : ∀ name, router.tag files incoming = .service name ↔
    isUpgradeRequest incoming.fields = false ∧ EntryFound router.server files incoming name
  byNone : router.tag files incoming = .none ↔
    isUpgradeRequest incoming.fields = false ∧ ¬ FileResolves router.server files incoming ∧
      ∀ name, ¬ EntryFound router.server files incoming name

theorem requestCounted (router : Router σ) (files : FileSystem) (incoming : Incoming)
    (world : World σ) : RequestCounted router files incoming world where
  once := fun label => by
    have counted := count_serve router files incoming world label
    rw [dispatch_world]
    split
    · exact counted
    · exact counted
  byUpgrade := tag_eq_websocket_iff
  byFile := tag_eq_static_iff
  byService := fun _ => tag_eq_service_iff
  byNone := tag_eq_none_iff

/-- The counts of a server agree with what has happened and with the registry,
in which every session has its own number, also where numbers are words. -/
structure CountsAgree (router : Router σ) (system : System σ Exchange) : Prop where
  requests : ∀ label,
    system.world.metrics.requests.count label = (system.answered router label : Int)
  inward : system.world.metrics.frames.count .inward =
    (system.acts.countP SessionAct.isRead : Int)
  outward : system.world.metrics.frames.count .outward =
    (system.acts.countP SessionAct.isDelivery : Int)
  gauge : ∀ protocol, system.world.metrics.sessions.count protocol =
    (system.world.registry.countProtocol protocol : Int)
  registered : ∀ protocol, system.world.registry.countProtocol protocol =
    (system.openUnder protocol).ncard
  distinct : (system.world.registry.sessions.map (·.1)).Nodup
  distinctWords : system.world.nextSession ≤ wordBound →
    (system.world.registry.sessions.map fun entry => UInt64.ofNat entry.1).Nodup

theorem CountsInvariant.agree {system : System σ Exchange} (holds : CountsInvariant router system) :
    CountsAgree router system where
  requests := holds.requests
  inward := by rw [holds.frames, framesMoved_inward]
  outward := by rw [holds.frames, framesMoved_outward]
  gauge := holds.gauged.shown
  registered := fun protocol => (ncard_openUnder holds protocol).symm
  distinct := holds.gauged.distinct
  distinctWords := fun few => by
    have distinct : (system.world.registry.sessions.map (·.1)).Nodup := holds.gauged.distinct
    have words := distinct.map_on (f := UInt64.ofNat) fun one oneListed other otherListed same => ?_
    · rwa [List.map_map] at words
    · obtain ⟨oneEntry, oneMember, rfl⟩ := List.mem_map.1 oneListed
      obtain ⟨otherEntry, otherMember, rfl⟩ := List.mem_map.1 otherListed
      have oneBound := Nat.lt_of_lt_of_le (listed_lt holds oneMember) few
      have otherBound := Nat.lt_of_lt_of_le (listed_lt holds otherMember) few
      have numbers := congrArg UInt64.toNat same
      rwa [UInt64.toNat_ofNat_of_lt' oneBound, UInt64.toNat_ofNat_of_lt' otherBound] at numbers

/-- A dispatch is steps of the server in use: its answer, and then the first
moves of the session that starts. -/
theorem dispatch_reachable {start system : System σ Exchange}
    (reachable : Reachable router.environment start system) (files : FileSystem)
    (incoming : Incoming) :
    ∃ next, Reachable router.environment start next ∧
      next.world = (router.dispatch files incoming system.world).world ∧
      next.surroundings = system.surroundings ++
        [{ files := files
           incoming := incoming
           reply := (router.dispatch files incoming system.world).reply }] := by
  let exchange : Exchange :=
    { files := files
      incoming := incoming
      reply := (router.dispatch files incoming system.world).reply }
  cases starts : (router.dispatch files incoming system.world).session with
  | none =>
      have answers : Step router.environment system _ :=
        .change exchange (router.serve files incoming system.world) ⟨rfl, starts, rfl⟩
      refine ⟨_, reachable.step answers, ?_, system.surroundings_around _ exchange⟩
      rw [dispatch_world, starts]
  | some session =>
      -- The answer accepts the session, which then enters the registry and is announced.
      obtain ⟨info, handler⟩ := session
      let served := router.serve files incoming system.world
      let task (phase : Phase) : SessionTask σ :=
        { info := info, handler := handler, phase := phase }
      let arrived := system.put (task .accepted) served [.around exchange]
      let entered := arrived.put (task .registered) (served.register info) []
      have arrives : Step router.environment system arrived :=
        .accept exchange info handler served ⟨rfl, starts, rfl⟩
      have enters : Step router.environment arrived entered :=
        .move (task .accepted) .registered _ _ (System.tasks_put_own _ _ _ _) (.register served)
      have opens : Step router.environment entered _ :=
        .move (task .registered) .running _ _ (System.tasks_put_own _ _ _ _)
          (.announce (served.register info))
      refine ⟨_, ((reachable.step arrives).step enters).step opens, ?_, ?_⟩
      · rw [dispatch_world, starts]
        rfl
      · have answered : arrived.surroundings = system.surroundings ++ [exchange] :=
          System.surroundings_put_around _ _ _ _
        have still : entered.surroundings = arrived.surroundings :=
          arrived.surroundings_put_own (task .registered) _ [] served.registry
        rw [← answered, ← still]
        exact entered.surroundings_put_own (task .running) _ [.did .opened] _

/-- In every run of a server, each request that is dispatched is counted once,
under what has answered it, and in every state on the way the counts agree with
what has happened and with the registry.  What a dispatch computes are steps of
such a run. -/
theorem metrics_agree_in_every_run (router : Router σ) (app : σ) :
    (∀ files incoming world, RequestCounted router files incoming world) ∧
      (∀ system, Reachable router.environment (System.start (World.initial app)) system →
        CountsAgree router system ∧
        ∀ files incoming, ∃ next,
          Reachable router.environment (System.start (World.initial app)) next ∧
          next.world = (router.dispatch files incoming system.world).world ∧
          next.surroundings = system.surroundings ++
            [{ files := files
               incoming := incoming
               reply := (router.dispatch files incoming system.world).reply }]) := by
  refine ⟨requestCounted router, fun system reachable => ⟨?_, ?_⟩⟩
  · exact (reachable_counts reachable).agree
  · exact dispatch_reachable reachable

/-- A session of the echo protocol is accepted and enters the registry. -/
theorem metrics_agree_in_every_run_upgrade :
    let router : Router Demo := .standard (Server.ofConfig default).addDemo
    let incoming := Incoming.forProtocol "proto-two"
    ∃ system : System Demo Exchange,
      Reachable router.environment (System.start (World.initial Demo.initial)) system ∧
      system.world = (router.dispatch default incoming (World.initial Demo.initial)).world ∧
      system.surroundings.map (Exchange.label router) =
        [{ method := "GET", status := 101, service := "websocket" }] ∧
      system.world.metrics.requests.count
        { method := "GET", status := 101, service := "websocket" } = 1 ∧
      system.world.metrics.sessions.count "proto-two" = 1 ∧
      (system.openUnder "proto-two").ncard = 1 := by
  intro router incoming
  have demo := metrics_agree_in_every_run router Demo.initial
  obtain ⟨system, reachable, world, surroundings⟩ :=
    (demo.2 (System.start (World.initial Demo.initial)) .refl).2 default incoming
  have agree := (demo.2 system reachable).1
  have listed : system.world.registry.countProtocol "proto-two" = 1 := by
    rw [world]
    decide +kernel
  have labels : system.surroundings.map (Exchange.label router) =
      [{ method := "GET", status := 101, service := "websocket" }] := by
    rw [surroundings]
    decide +kernel
  refine ⟨system, reachable, world, labels, ?_, ?_, ?_⟩
  · rw [agree.requests, System.answered, labels]
    rfl
  · rw [agree.gauge, listed]
    rfl
  · rw [← agree.registered, listed]

end WebHost
