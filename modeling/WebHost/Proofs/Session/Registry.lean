/-
Module: WebHost.Proofs.Session.Registry
Purpose: What the steps of a session do to the registry.
Main exports:
  Registry.get?_insert, Registry.get?_remove, World.register, World.unregister,
  SessionEvent.step_registry
-/
import WebHost.Proofs.Lists
import WebHost.Session.Loop

namespace WebHost

/-!
A session enters the registry and leaves it by one step each.  Both steps touch
its own number only, and whatever happens in between touches no number at all.
-/

namespace Registry

/-- Insertion gives a number its session and no other number another one. -/
theorem get?_insert (registry : Registry) (metrics : Metrics) (info : SessionInfo)
    (id : SessionId) :
    (registry.insert metrics info).1.get? id =
      if id = info.id then some info else registry.get? id := by
  simp only [insert, get?, List.lookup_append, lookup_filter_ne]
  by_cases same : id = info.id
  · subst same
    simp
  · simp [same, List.lookup_cons, beq_false_of_ne same]

/-- Removal takes the session of a number and no other one. -/
theorem get?_remove (registry : Registry) (metrics : Metrics) (id key : SessionId) :
    (registry.remove metrics id).2.1.get? key = if key = id then none else registry.get? key := by
  unfold remove
  cases found : registry.get? id with
  | none =>
      by_cases same : key = id
      · simp [same, found]
      · simp [same]
  | some info => exact lookup_filter_ne registry.sessions id key

end Registry

section Worlds

variable {σ : Type}

/-- The world in which a session has entered the registry. -/
def World.register (world : World σ) (info : SessionInfo) : World σ :=
  { world with
    registry := (world.registry.insert world.metrics info).1
    metrics := (world.registry.insert world.metrics info).2 }

/-- The world in which a session has left the registry. -/
def World.unregister (world : World σ) (info : SessionInfo) : World σ :=
  { world with
    registry := (world.registry.remove world.metrics info.id).2.1
    metrics := (world.registry.remove world.metrics info.id).2.2 }

theorem openSession_eq (handler : Handler σ) (info : SessionInfo) (world : World σ) :
    openSession handler info world =
      { world.register info with app := handler.onOpen info world.app } := rfl

theorem closeSession_eq (handler : Handler σ) (info : SessionInfo) (world : World σ) :
    closeSession handler info world =
      { world.unregister info with app := handler.onClose info world.app } := rfl

/-- No event of an open session touches the registry. -/
theorem SessionEvent.step_registry (handler : Handler σ) (info : SessionInfo)
    (event : SessionEvent) (world : World σ) :
    (event.step handler info world).world.registry = world.registry ∧
      (event.step handler info world).world.nextSession = world.nextSession := by
  cases event with
  | text value => exact ⟨rfl, rfl⟩
  | binary content => exact ⟨rfl, rfl⟩
  | ping => exact ⟨rfl, rfl⟩
  | pong => exact ⟨rfl, rfl⟩
  | peerClosed => exact ⟨rfl, rfl⟩
  | receiveFailed => exact ⟨rfl, rfl⟩
  | streamEnded => exact ⟨rfl, rfl⟩
  | stopped => exact ⟨rfl, rfl⟩
  | tick sendable =>
      simp only [SessionEvent.step, pollFrame]
      split <;> exact ⟨rfl, rfl⟩

end Worlds

end WebHost
