/-
Module: WebHost.Proofs.Session.LifeCycle
Purpose: Every session of a server obeys the laws of its life, however the
  sessions interleave.
Main exports:
  SystemInvariant, step_invariant, reachable_invariant, LoopRun, runSession_reachable,
  sessions_live_by_the_laws
-/
import WebHost.Demo
import WebHost.Proofs.Server.Invocations
import WebHost.Proofs.Session.Course

namespace WebHost

/-!
One invariant carries the laws through every run: each task is on a possible
course, and its number is in the registry in the phases between entering and
leaving it, and in no other.  A session that runs alone is the special case that
the session loop computes.
-/

variable {σ ρ : Type}

/-! ### Registration by phase -/

/-- The session is in the registry. -/
def Phase.isListed : Phase → Bool
  | .registered | .running | .leaving => true
  | _ => false

/-- What the registry holds under the number of a session. -/
def Phase.listing (phase : Phase) (info : SessionInfo) : Option SessionInfo :=
  if phase.isListed then some info else none

/-- A call finds its session in the registry, but for the closing, which does
not. -/
def Entry.Registered : Entry ρ → Prop
  | .around _ => True
  | .session _ (.took _) _ => True
  | .session id (.did act) registry =>
      (act.isCall = true → act ≠ .closed → ∃ info, info.id = id ∧ registry.get? id = some info) ∧
        (act = .closed → registry.get? id = none)

section Moves

variable {handler : Handler σ} {info : SessionInfo} {phase next : Phase} {world after : World σ}
  {happened : List Happening}

/-- A move changes the registry under its own number at most, and there as the
phase says. -/
theorem moves_registry (moves : Moves handler info phase world next after happened) :
    (∀ id, id ≠ info.id → after.registry.get? id = world.registry.get? id) ∧
      (world.registry.get? info.id = phase.listing info →
        after.registry.get? info.id = next.listing info) ∧
      after.nextSession = world.nextSession := by
  cases moves with
  | register =>
      refine ⟨?_, ?_, rfl⟩
      · intro id apart
        simp [World.register, Registry.get?_insert, apart]
      · intro _
        simp [World.register, Registry.get?_insert, Phase.listing, Phase.isListed]
  | announce => exact ⟨fun _ _ => rfl, id, rfl⟩
  | goesOn event world continues =>
      obtain ⟨registry, number⟩ := event.step_registry handler info world
      rw [registry, number]
      exact ⟨fun _ _ => rfl, id, rfl⟩
  | stops event world ends =>
      obtain ⟨registry, number⟩ := event.step_registry handler info world
      rw [registry, number]
      exact ⟨fun _ _ => rfl, id, rfl⟩
  | unregister =>
      refine ⟨?_, ?_, rfl⟩
      · intro id apart
        simp [World.unregister, Registry.get?_remove, apart]
      · intro _
        simp [World.unregister, Registry.get?_remove, Phase.listing, Phase.isListed]
  | farewell => exact ⟨fun _ _ => rfl, id, rfl⟩

theorem TurnActs.ne_closed {event : SessionEvent} {acts : List SessionAct} {goesOn : Bool}
    (turn : TurnActs event acts goesOn) : .closed ∉ acts := by
  cases turn <;> simp

/-- The calls of an event are made while the session is in the registry. -/
theorem registered_of_mem_turnOf {event : SessionEvent} {acts : List SessionAct} {goesOn : Bool}
    (turn : TurnActs event acts goesOn) {registry : Registry}
    (listed : registry.get? info.id = some info) {happening : Happening}
    (member : happening ∈ turnOf event acts) :
    (.session info.id happening registry : Entry ρ).Registered := by
  rcases List.mem_cons.1 member with rfl | member
  · trivial
  · obtain ⟨act, among, rfl⟩ := List.mem_map.1 member
    refine ⟨fun _ _ => ⟨info, rfl, listed⟩, ?_⟩
    rintro rfl
    exact absurd among turn.ne_closed

/-- Calls are made as the registry of the moment allows. -/
theorem moves_registered (moves : Moves handler info phase world next after happened)
    (listed : world.registry.get? info.id = phase.listing info) :
    ∀ happening ∈ happened,
      (.session info.id happening world.registry : Entry ρ).Registered := by
  intro happening member
  cases moves with
  | register => cases member
  | announce =>
      rw [List.mem_singleton.1 member]
      exact ⟨fun _ _ => ⟨info, rfl, listed⟩, nofun⟩
  | goesOn event world continues =>
      exact registered_of_mem_turnOf (turnActs_step handler info event world) listed member
  | stops event world ends =>
      exact registered_of_mem_turnOf (turnActs_step handler info event world) listed member
  | unregister => cases member
  | farewell =>
      rw [List.mem_singleton.1 member]
      exact ⟨fun _ notClosed => absurd rfl notClosed, fun _ => listed⟩

/-- The acts of a move show the calls that it makes: with a handler that notes
its calls, the same happens, and these calls and no others are noted. -/
theorem moves_logged (moves : Moves handler info phase world next after happened)
    (log : List Invocation) :
    Moves handler.logged info phase (world.logged log) next
      (after.logged (log ++ (actsOf happened).filterMap (SessionAct.invocation? info)))
      happened := by
  cases moves with
  | register =>
      rw [actsOf, List.filterMap_nil, List.filterMap_nil, List.append_nil]
      exact .register (world.logged log)
  | announce => exact .announce (world.logged log)
  | goesOn event world continues =>
      have turn := event.step_logged handler info world log
      have move : Moves handler.logged info .running (world.logged log) .running _ _ :=
        .goesOn event (world.logged log) (by rw [turn]; exact continues)
      rw [turn] at move
      rw [actsOf_turnOf]
      exact move
  | stops event world ends =>
      have turn := event.step_logged handler info world log
      have move : Moves handler.logged info .running (world.logged log) .leaving _ _ :=
        .stops event (world.logged log) (by rw [turn]; exact ends)
      rw [turn] at move
      rw [actsOf_turnOf]
      exact move
  | unregister =>
      rw [actsOf, List.filterMap_nil, List.filterMap_nil, List.append_nil]
      exact .unregister (world.logged log)
  | farewell => exact .farewell (world.logged log)

end Moves

/-! ### The invariant -/

/-- What holds of the session of a number: it has a task only if the number has
been given out, and its task, its life and its entry in the registry agree. -/
structure SessionInvariant (system : System σ ρ) (id : SessionId) : Prop where
  fresh : system.world.nextSession ≤ id →
    system.tasks id = none ∧ system.world.registry.get? id = none
  silent : system.tasks id = none → system.life id = []
  named : ∀ task, system.tasks id = some task → task.info.id = id
  course : ∀ task, system.tasks id = some task → Course task.phase (system.life id)
  listed : ∀ task, system.tasks id = some task →
    system.world.registry.get? id = task.phase.listing task.info

/-- What holds of every system that can be reached. -/
structure SystemInvariant (system : System σ ρ) : Prop where
  sessions : ∀ id, SessionInvariant system id
  entries : ∀ entry ∈ system.history, entry.Registered

/-- No number that is still to be given out is in the registry. -/
def World.Fresh (world : World σ) : Prop :=
  ∀ id, world.nextSession ≤ id → world.registry.get? id = none

theorem start_invariant {world : World σ} (fresh : world.Fresh) :
    SystemInvariant (System.start world : System σ ρ) := by
  refine { sessions := fun id => ?_, entries := nofun }
  exact {
    fresh := fun unborn => ⟨rfl, fresh id unborn⟩
    silent := fun _ => rfl
    named := nofun
    course := nofun
    listed := nofun }

section Steps

variable {around : Environment σ ρ} {system next : System σ ρ}

/-- A session is not affected by what leaves its task, its life and its entry
alone. -/
theorem SessionInvariant.frame {id : SessionId} (holds : SessionInvariant system id)
    (tasks : next.tasks id = system.tasks id) (life : next.life id = system.life id)
    (registry : next.world.registry.get? id = system.world.registry.get? id)
    (number : system.world.nextSession ≤ next.world.nextSession) : SessionInvariant next id where
  fresh := fun unborn => by
    rw [tasks, registry]
    exact holds.fresh (Nat.le_trans number unborn)
  silent := fun absent => by
    rw [life]
    exact holds.silent (tasks ▸ absent)
  named := fun task found => holds.named task (tasks ▸ found)
  course := fun task found => by
    rw [life]
    exact holds.course task (tasks ▸ found)
  listed := fun task found => by
    rw [registry]
    exact holds.listed task (tasks ▸ found)

theorem change_invariant (holds : SystemInvariant system) {label : ρ} {world : World σ}
    (changed : around.changes system.world label world) :
    SystemInvariant
      { system with world := world, history := system.history ++ [.around label] } := by
  obtain ⟨registry, number⟩ := around.changes_registry changed
  constructor
  · intro id
    refine (holds.sessions id).frame rfl (system.life_around world label id) ?_ ?_
    · rw [registry]
    · exact Nat.le_of_eq number.symm
  · intro entry member
    rcases List.mem_append.1 member with earlier | new
    · exact holds.entries entry earlier
    · rw [List.mem_singleton.1 new]
      trivial

theorem accept_invariant (holds : SystemInvariant system) {label : ρ} {info : SessionInfo}
    {handler : Handler σ} {world : World σ}
    (accepted : around.accepts system.world label info handler world) :
    SystemInvariant
      (system.put { info := info, handler := handler, phase := .accepted } world
        [.around label]) := by
  obtain ⟨named, registry, number⟩ := around.accepts_registry accepted
  obtain ⟨unborn, unlisted⟩ := (holds.sessions info.id).fresh (Nat.le_of_eq named.symm)
  have given : info.id < world.nextSession := by
    rw [named, number]
    exact Nat.lt_succ_self _
  constructor
  · intro id
    by_cases own : id = info.id
    · subst own
      have life : system.life info.id = [] := (holds.sessions info.id).silent unborn
      have task := system.tasks_put_own { info := info, handler := handler, phase := .accepted }
        world [.around label]
      refine {
        fresh := fun later => absurd given (Nat.not_lt.2 later)
        silent := fun absent => ?_
        named := fun other found => ?_
        course := fun other found => ?_
        listed := fun other found => ?_ }
      · rw [task] at absent
        cases absent
      · rw [task] at found
        cases found
        rfl
      · rw [task] at found
        cases found
        rw [System.life_put_around]
        exact life
      · rw [task] at found
        cases found
        exact registry ▸ unlisted
    · refine (holds.sessions id).frame (system.tasks_put_other _ _ _ own)
        (system.life_put_around _ _ _ id) ?_ ?_
      · simp only [System.put, registry]
      · simp only [System.put, number]
        exact Nat.le_succ _
  · intro entry member
    rcases List.mem_append.1 member with earlier | new
    · exact holds.entries entry earlier
    · rw [List.mem_singleton.1 new]
      trivial

theorem move_invariant (holds : SystemInvariant system) {task : SessionTask σ} {phase : Phase}
    {world : World σ} {happened : List Happening}
    (found : system.tasks task.info.id = some task)
    (moves : Moves task.handler task.info task.phase system.world phase world happened) :
    SystemInvariant
      (system.put { task with phase := phase } world
        (happened.map fun happening =>
          .session task.info.id happening system.world.registry)) := by
  obtain ⟨others, listing, number⟩ := moves_registry moves
  have here := holds.sessions task.info.id
  have listed := here.listed task found
  constructor
  · intro id
    by_cases own : id = task.info.id
    · subst own
      have moved := system.tasks_put_own { task with phase := phase } world
        (happened.map fun happening => .session task.info.id happening system.world.registry)
      have life := system.life_put_own { task with phase := phase } world happened
        system.world.registry
      dsimp only at moved life
      refine {
        fresh := fun later => ?_
        silent := fun absent => ?_
        named := fun other same => ?_
        course := fun other same => ?_
        listed := fun other same => ?_ }
      · simp only [System.put, number] at later
        rw [(here.fresh later).1] at found
        cases found
      · rw [moved] at absent
        cases absent
      · rw [moved] at same
        cases same
        rfl
      · rw [moved] at same
        cases same
        rw [life]
        exact course_moves moves (here.course task found)
      · rw [moved] at same
        cases same
        exact listing listed
    · refine (holds.sessions id).frame (system.tasks_put_other _ _ _ own)
        (system.life_put_other _ _ happened _ own) (others id own) (Nat.le_of_eq number.symm)
  · intro entry member
    rcases List.mem_append.1 member with earlier | new
    · exact holds.entries entry earlier
    · obtain ⟨happening, among, rfl⟩ := List.mem_map.1 new
      exact moves_registered moves listed happening among

/-- Every step keeps the invariant. -/
theorem step_invariant (holds : SystemInvariant system) (step : Step around system next) :
    SystemInvariant next := by
  cases step with
  | change label world changed => exact change_invariant holds changed
  | accept label info handler world accepted => exact accept_invariant holds accepted
  | move task phase world happened found moves => exact move_invariant holds found moves

/-- So every system that can be reached has it. -/
theorem reachable_invariant {world : World σ} (fresh : world.Fresh)
    (reachable : Reachable around (System.start world) system) : SystemInvariant system := by
  induction reachable with
  | refl => exact start_invariant fresh
  | step _ step holds => exact step_invariant holds step

end Steps

/-! ### Sessions that run alone -/

section Alone

variable {around : Environment σ ρ} {start system : System σ ρ} {handler : Handler σ}
  {info : SessionInfo}

/-- A session that can move leads the system on. -/
theorem move_reachable (reachable : Reachable around start system) {phase next : Phase}
    (found : system.tasks info.id = some { info := info, handler := handler, phase := phase })
    {world : World σ} {happened : List Happening}
    (moves : Moves handler info phase system.world next world happened) :
    ∃ moved, Reachable around start moved ∧ moved.world = world ∧
      moved.tasks info.id = some { info := info, handler := handler, phase := next } ∧
      moved.life info.id = system.life info.id ++ happened := by
  let task : SessionTask σ := { info := info, handler := handler, phase := phase }
  have step : Step around system _ := Step.move task next world happened found moves
  exact ⟨_, reachable.step step, rfl, System.tasks_put_own _ _ _ _,
    System.life_put_own _ { task with phase := next } _ _ _⟩

/-- The phase in which a turn leaves an open session. -/
def Turn.phase (turn : Turn σ) : Phase :=
  if turn.goesOn then .running else .leaving

/-- The events that a session takes when nothing else happens are steps of the
system, up to the event that ends it. -/
theorem takeEvents_reachable (events : List SessionEvent)
    (reachable : Reachable around start system)
    (found : system.tasks info.id =
      some { info := info, handler := handler, phase := .running }) :
    ∃ last taken, Reachable around start last ∧ taken <+: events ∧
      ((takeEvents handler info events system.world).goesOn = true → taken = events) ∧
      last.world = (takeEvents handler info events system.world).world ∧
      last.tasks info.id = some
        { info := info
          handler := handler
          phase := (takeEvents handler info events system.world).phase } ∧
      actsOf (last.life info.id) =
        actsOf (system.life info.id) ++ (takeEvents handler info events system.world).acts ∧
      eventsOf (last.life info.id) = eventsOf (system.life info.id) ++ taken := by
  -- Each event moves the system on, so the hypothesis has to hold of every system.
  induction events generalizing system with
  | nil =>
      exact ⟨system, [], reachable, List.prefix_refl [], fun _ => rfl, rfl, found,
        by simp [takeEvents], by simp⟩
  | cons event rest ih =>
      unfold takeEvents
      cases continues : (event.step handler info system.world).goesOn with
      | false =>
          obtain ⟨moved, reached, world, task, life⟩ :=
            move_reachable reachable found (.stops event system.world continues)
          simp only [Bool.false_eq_true, if_false, Turn.phase, continues]
          refine ⟨moved, [event], reached, by simp, by simp, world, task, ?_, ?_⟩
          · rw [life, actsOf_append, actsOf_turnOf]
          · rw [life, eventsOf_append, eventsOf_turnOf]
      | true =>
          obtain ⟨moved, reached, world, task, life⟩ :=
            move_reachable reachable found (.goesOn event system.world continues)
          obtain ⟨last, taken, reached, early, all, left, found, acts, took⟩ := ih reached task
          rw [world] at all left found acts
          simp only [continues, if_true]
          refine ⟨last, event :: taken, reached, ?_, ?_, left, found, ?_, ?_⟩
          · exact List.cons_prefix_cons.2 ⟨rfl, early⟩
          · exact fun goesOn => congrArg (event :: ·) (all goesOn)
          · rw [acts, life, actsOf_append, actsOf_turnOf, List.append_assoc]
          · rw [took, life, eventsOf_append, eventsOf_turnOf, List.append_assoc]
            rfl

theorem runSession_of_goesOn {events : List SessionEvent} {world : World σ}
    (goesOn : (takeEvents handler info events (openSession handler info world)).goesOn = true) :
    runSession handler info events world =
      { takeEvents handler info events (openSession handler info world) with
        acts := .opened ::
          (takeEvents handler info events (openSession handler info world)).acts
        goesOn := true } := by
  simp [runSession, goesOn]

theorem runSession_of_stops {events : List SessionEvent} {world : World σ}
    (stops : (takeEvents handler info events (openSession handler info world)).goesOn = false) :
    runSession handler info events world =
      { acts := .opened ::
          ((takeEvents handler info events (openSession handler info world)).acts ++ [.closed])
        goesOn := false
        world := closeSession handler info
          (takeEvents handler info events (openSession handler info world)).world } := by
  simp [runSession, stops]

/-- A run of the system in which one session is accepted and nothing else
happens, up to where the session loop ends. -/
structure LoopRun (around : Environment σ ρ) (world : World σ) (handler : Handler σ)
    (info : SessionInfo) (events : List SessionEvent) (accepted : World σ)
    (last : System σ ρ) : Prop where
  reachable : Reachable around (System.start world) last
  taken : eventsOf (last.life info.id) <+: events
  all_taken : (runSession handler info events accepted).goesOn = true →
    eventsOf (last.life info.id) = events
  world_eq : last.world = (runSession handler info events accepted).world
  task : last.tasks info.id = some
    { info := info
      handler := handler
      phase := if (runSession handler info events accepted).goesOn then .running else .ended }
  acts : actsOf (last.life info.id) = (runSession handler info events accepted).acts

/-- What the session loop computes is such a run. -/
theorem runSession_reachable {world accepted : World σ} {label : ρ}
    (accepts : around.accepts world label info handler accepted) (events : List SessionEvent) :
    ∃ last, LoopRun around world handler info events accepted last := by
  have arrives : Step around (System.start world) _ :=
    .accept label info handler accepted accepts
  obtain ⟨registered, reached, entered, task, unheard⟩ :=
    move_reachable (Reachable.refl.step arrives) (System.tasks_put_own _ _ _ _)
      (.register accepted)
  obtain ⟨opened, reached, started, task, told⟩ :=
    move_reachable reached task (.announce registered.world)
  have unborn : (System.start world : System σ ρ).life info.id = [] := rfl
  rw [unheard, System.life_put_around, unborn, List.append_nil, List.nil_append] at told
  rw [entered] at started
  obtain ⟨last, taken, reached, early, all, left, task, acts, took⟩ :=
    takeEvents_reachable events reached task
  rw [told, actsOf_did] at acts
  rw [told, eventsOf_did, List.nil_append] at took
  have openedWorld : opened.world = openSession handler info accepted := by
    rw [openSession_eq]
    exact started
  rw [openedWorld] at all left task acts
  subst took
  cases goesOn : (takeEvents handler info events (openSession handler info accepted)).goesOn with
  | true =>
      have loop := runSession_of_goesOn goesOn
      simp only [Turn.phase, goesOn, if_true] at task
      refine ⟨last, reached, early, fun _ => all goesOn, ?_, ?_, ?_⟩
      · rw [loop, left]
      · rw [loop, task, if_pos rfl]
      · rw [loop, acts]
        rfl
  | false =>
      have loop := runSession_of_stops goesOn
      simp only [Turn.phase, goesOn, Bool.false_eq_true, if_false] at task
      obtain ⟨removed, reached, vanished, task, lived⟩ :=
        move_reachable reached task (.unregister last.world)
      obtain ⟨ended, reached, closed, task, died⟩ :=
        move_reachable reached task (.farewell removed.world)
      rw [lived, List.append_nil] at died
      have took : eventsOf (ended.life info.id) = eventsOf (last.life info.id) := by
        rw [died, eventsOf_append, eventsOf_did, List.append_nil]
      refine ⟨ended, reached, took ▸ early, ?_, ?_, ?_, ?_⟩
      · rw [loop]
        simp
      · rw [loop, closed, vanished, left, closeSession_eq]
        rfl
      · rw [loop, task, if_neg Bool.false_ne_true]
      · rw [loop, died, actsOf_append, actsOf_did, acts]
        rfl

end Alone

/-! ### All sessions, in every run -/

/-- The most that the rest of a server could do between the moves of sessions. -/
def Environment.widest : Environment σ Unit where
  changes := fun before _ after =>
    after.registry = before.registry ∧ after.nextSession = before.nextSession
  accepts := fun before _ info _ after =>
    info.id = before.nextSession ∧ after.registry = before.registry ∧
      after.nextSession = before.nextSession + 1
  changes_registry := id
  accepts_registry := id

/-- In every run, whatever its environment does, each session obeys the laws of
its life, and its calls find it in the registry up to the closing, from when on
it is not there.  What the session loop computes is such a run.  The calls that
the acts show are the calls that are made, move by move and in the whole loop. -/
theorem sessions_live_by_the_laws (around : Environment σ ρ) {world : World σ}
    (fresh : world.Fresh) :
    (∀ system, Reachable around (System.start world) system →
      (∀ id task, system.tasks id = some task →
        (task.phase.begun = false → system.life id = []) ∧
        (task.phase.begun = true → LifeCycle task.phase (system.life id)) ∧
        (.closed ∈ actsOf (system.life id) →
          task.phase = .ended ∧ system.world.registry.get? id = none)) ∧
      ∀ entry ∈ system.history, entry.Registered) ∧
    (∀ label info handler accepted events, around.accepts world label info handler accepted →
      ∃ last, LoopRun around world handler info events accepted last) ∧
    (∀ (handler : Handler σ) info phase next before after happened log,
      Moves handler info phase before next after happened →
      Moves handler.logged info phase (before.logged log) next
        (after.logged (log ++ (actsOf happened).filterMap (SessionAct.invocation? info)))
        happened) ∧
    ∀ (handler : Handler σ) info events current log,
      runSession handler.logged info events (current.logged log) =
        (runSession handler info events current).logged info log := by
  refine ⟨?_, ?_, ?_, ?_⟩
  · intro system reachable
    have holds := reachable_invariant fresh reachable
    refine ⟨?_, holds.entries⟩
    intro id task found
    have course := (holds.sessions id).course task found
    refine ⟨course.eq_nil, course.lifeCycle, ?_⟩
    intro closed
    have ended := course.ended_of_closed closed
    refine ⟨ended, ?_⟩
    rw [(holds.sessions id).listed task found, ended]
    rfl
  · exact fun label info handler accepted events accepts => runSession_reachable accepts events
  · exact fun handler info phase next before after happened log moves => moves_logged moves log
  · exact runSession_logged

/-- One greeting is read and answered by the echo protocol, and then the peer
leaves. -/
theorem sessions_live_by_the_laws_echo :
    (World.initial Demo.initial).Fresh ∧
      ∃ last : System Demo Unit,
        Reachable Environment.widest (System.start (World.initial Demo.initial)) last ∧
        callsOf (last.life 1) =
          [.opened, .read (.text "hi") true, .polled (some (.text echoGreeting)), .polled none,
            .closed] ∧
        last.world.registry.get? 1 = none := by
  have fresh : (World.initial Demo.initial).Fresh := fun _ _ => rfl
  let info : SessionInfo := { id := 1, protocol := "echo", peer := none }
  let accepted : World Demo := { World.initial Demo.initial with nextSession := 2 }
  obtain ⟨laws, alone, _⟩ := sessions_live_by_the_laws Environment.widest fresh
  obtain ⟨last, run⟩ :=
    alone () info echoHandler accepted
      [.text "hi", .ping, .tick true, .tick true, .peerClosed] ⟨rfl, rfl, rfl⟩
  have shown : actsOf (last.life 1) =
      [.opened, .read (.text "hi") true, .polled (some (.text echoGreeting)),
        .sent (.text echoGreeting) true, .polled none, .closed] := run.acts
  obtain ⟨_, _, closed⟩ := (laws last run.reachable).1 1 _ run.task
  refine ⟨fresh, last, run.reachable, ?_, (closed (by simp [shown])).2⟩
  rw [callsOf, shown]
  rfl

end WebHost
