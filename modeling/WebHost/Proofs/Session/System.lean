/-
Module: WebHost.Proofs.Session.System
Purpose: All sessions of a server as they interleave, one step after another.
Main exports:
  Phase, Happening, Moves, Environment, System, Step, Reachable, System.life
-/
import WebHost.Proofs.Session.Registry

namespace WebHost

/-!
A session is a task that goes through phases.  Entering the registry, telling
the handler that the session is open, taking one event, leaving the registry and
telling the handler that it is closed are single moves; between two of them any
other session may move, and the rest of the server may change the world as the
environment allows.  The history keeps what happened, and the registry of the
moment at which it happened.
-/

/-- How far a session has come. -/
inductive Phase where
  | accepted
  | registered
  | running
  | leaving
  | removed
  | ended
deriving Repr, DecidableEq

/-- What is seen of a session: the events it takes and what it does. -/
inductive Happening where
  | took (event : SessionEvent)
  | did (act : SessionAct)
deriving Repr, DecidableEq

/-- An event, and what was done about it. -/
def turnOf (event : SessionEvent) (acts : List SessionAct) : List Happening :=
  .took event :: acts.map .did

variable {σ ρ : Type}

/-- The moves of a session. -/
inductive Moves (handler : Handler σ) (info : SessionInfo) :
    Phase → World σ → Phase → World σ → List Happening → Prop where
  | register (world : World σ) :
      Moves handler info .accepted world .registered (world.register info) []
  | announce (world : World σ) :
      Moves handler info .registered world .running
        { world with app := handler.onOpen info world.app } [.did .opened]
  | goesOn (event : SessionEvent) (world : World σ)
      (continues : (event.step handler info world).goesOn = true) :
      Moves handler info .running world .running (event.step handler info world).world
        (turnOf event (event.step handler info world).acts)
  | stops (event : SessionEvent) (world : World σ)
      (ends : (event.step handler info world).goesOn = false) :
      Moves handler info .running world .leaving (event.step handler info world).world
        (turnOf event (event.step handler info world).acts)
  | unregister (world : World σ) :
      Moves handler info .leaving world .removed (world.unregister info) []
  | farewell (world : World σ) :
      Moves handler info .removed world .ended
        { world with app := handler.onClose info world.app } [.did .closed]

/-- The task of a session. -/
structure SessionTask (σ : Type) where
  info : SessionInfo
  handler : Handler σ
  phase : Phase

/-- What the rest of the server may do between the moves of sessions: change the
world, or accept a session, which gets the next number.  Neither touches the
registry.  The label says what was done. -/
structure Environment (σ ρ : Type) where
  changes : World σ → ρ → World σ → Prop
  accepts : World σ → ρ → SessionInfo → Handler σ → World σ → Prop
  changes_registry : ∀ {before label after}, changes before label after →
    after.registry = before.registry ∧ after.nextSession = before.nextSession
  accepts_registry : ∀ {before label info handler after},
    accepts before label info handler after →
      info.id = before.nextSession ∧ after.registry = before.registry ∧
        after.nextSession = before.nextSession + 1

/-- One line of the history. -/
inductive Entry (ρ : Type) where
  | around (label : ρ)
  | session (id : SessionId) (happening : Happening) (registry : Registry)

/-- All sessions, the world they share and what has happened so far. -/
structure System (σ ρ : Type) where
  world : World σ
  tasks : SessionId → Option (SessionTask σ)
  history : List (Entry ρ)

namespace System

/-- The system in which no session has been accepted. -/
def start (world : World σ) : System σ ρ :=
  { world := world
    tasks := fun _ => none
    history := [] }

/-- The system after a task has come to some point. -/
def put (system : System σ ρ) (task : SessionTask σ) (world : World σ)
    (entries : List (Entry ρ)) : System σ ρ :=
  { world := world
    tasks := fun id => if id = task.info.id then some task else system.tasks id
    history := system.history ++ entries }

end System

/-- One step of the system. -/
inductive Step (around : Environment σ ρ) (system : System σ ρ) : System σ ρ → Prop where
  | change (label : ρ) (world : World σ) (changed : around.changes system.world label world) :
      Step around system
        { system with world := world, history := system.history ++ [.around label] }
  | accept (label : ρ) (info : SessionInfo) (handler : Handler σ) (world : World σ)
      (accepted : around.accepts system.world label info handler world) :
      Step around system
        (system.put { info := info, handler := handler, phase := .accepted } world
          [.around label])
  | move (task : SessionTask σ) (next : Phase) (world : World σ) (happened : List Happening)
      (found : system.tasks task.info.id = some task)
      (moves : Moves task.handler task.info task.phase system.world next world happened) :
      Step around system
        (system.put { task with phase := next } world
          (happened.map fun happening => .session task.info.id happening system.world.registry))

/-- The systems that some steps lead to. -/
inductive Reachable (around : Environment σ ρ) (start : System σ ρ) : System σ ρ → Prop where
  | refl : Reachable around start start
  | step {system next : System σ ρ} (reachable : Reachable around start system)
      (step : Step around system next) : Reachable around start next

/-! ### The part of one session in the history -/

/-- What an entry says about a session. -/
def Entry.of? (id : SessionId) : Entry ρ → Option Happening
  | .around _ => none
  | .session other happening _ => if other = id then some happening else none

/-- Everything that has happened to a session, in order. -/
def System.life (system : System σ ρ) (id : SessionId) : List Happening :=
  system.history.filterMap (Entry.of? id)

theorem filterMap_of?_own (id : SessionId) (happened : List Happening) (registry : Registry) :
    (happened.map fun happening => (.session id happening registry : Entry ρ)).filterMap
      (Entry.of? id) = happened := by
  simp [List.filterMap_map, Function.comp_def, Entry.of?]

theorem filterMap_of?_other {id other : SessionId} (apart : other ≠ id)
    (happened : List Happening) (registry : Registry) :
    (happened.map fun happening => (.session other happening registry : Entry ρ)).filterMap
      (Entry.of? id) = [] := by
  simp [List.filterMap_map, Function.comp_def, Entry.of?, apart]

namespace System

/-- What happens to a session is added to its life. -/
theorem life_put_own (system : System σ ρ) (task : SessionTask σ) (world : World σ)
    (happened : List Happening) (registry : Registry) :
    (system.put task world (happened.map (.session task.info.id · registry))).life task.info.id =
      system.life task.info.id ++ happened := by
  unfold life put
  rw [List.filterMap_append, filterMap_of?_own]

/-- What happens to one session is nothing in the life of another. -/
theorem life_put_other (system : System σ ρ) (task : SessionTask σ) (world : World σ)
    (happened : List Happening) (registry : Registry) {id : SessionId}
    (apart : id ≠ task.info.id) :
    (system.put task world (happened.map (.session task.info.id · registry))).life id =
      system.life id := by
  unfold life put
  rw [List.filterMap_append, filterMap_of?_other (Ne.symm apart), List.append_nil]

/-- What the rest of the server does is nothing in the life of a session. -/
theorem life_put_around (system : System σ ρ) (task : SessionTask σ) (world : World σ)
    (label : ρ) (id : SessionId) :
    (system.put task world [.around label]).life id = system.life id := by
  simp [life, put, Entry.of?]

theorem life_around (system : System σ ρ) (world : World σ) (label : ρ) (id : SessionId) :
    ({ system with world := world, history := system.history ++ [.around label] } :
      System σ ρ).life id = system.life id := by
  simp [life, Entry.of?]

theorem tasks_put_own (system : System σ ρ) (task : SessionTask σ) (world : World σ)
    (entries : List (Entry ρ)) :
    (system.put task world entries).tasks task.info.id = some task := by
  simp [put]

theorem tasks_put_other (system : System σ ρ) (task : SessionTask σ) (world : World σ)
    (entries : List (Entry ρ)) {id : SessionId} (apart : id ≠ task.info.id) :
    (system.put task world entries).tasks id = system.tasks id := by
  simp [put, apart]

/-- A task that is found after a task was put is that one or was there before. -/
theorem tasks_put_eq_some {system : System σ ρ} {task other : SessionTask σ} {world : World σ}
    {entries : List (Entry ρ)} {id : SessionId}
    (found : (system.put task world entries).tasks id = some other) :
    (id = task.info.id ∧ other = task) ∨ (id ≠ task.info.id ∧ system.tasks id = some other) := by
  by_cases own : id = task.info.id
  · subst own
    rw [tasks_put_own] at found
    exact Or.inl ⟨rfl, (Option.some.inj found).symm⟩
  · rw [tasks_put_other _ _ _ _ own] at found
    exact Or.inr ⟨own, found⟩

theorem tasks_put_eq_none {system : System σ ρ} {task : SessionTask σ} {world : World σ}
    {entries : List (Entry ρ)} {id : SessionId}
    (absent : (system.put task world entries).tasks id = none) :
    id ≠ task.info.id ∧ system.tasks id = none := by
  by_cases own : id = task.info.id
  · subst own
    rw [tasks_put_own] at absent
    cases absent
  · rw [tasks_put_other _ _ _ _ own] at absent
    exact ⟨own, absent⟩

end System

end WebHost
