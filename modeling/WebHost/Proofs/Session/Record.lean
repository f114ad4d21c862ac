/-
Module: WebHost.Proofs.Session.Record
Purpose: What all sessions have done together, and what is counted of it.
Main exports:
  System.acts, System.surroundings, SessionAct.direction?, Metrics.Grown, moves_grown,
  moves_gauged
-/
import WebHost.Proofs.Session.Gauge
import WebHost.Proofs.Session.LifeCycle

namespace WebHost

/-!
The history of a system holds the acts of all its sessions, as they interleave,
and what the rest of the server did between them.  A frame is counted when the
handler reads it and when it has got out, and nothing else that a session does
moves the count of frames.
-/

variable {σ ρ : Type}

/-! ### Acts of all sessions -/

/-- The act that an entry shows. -/
def Entry.act? : Entry ρ → Option SessionAct
  | .around _ => none
  | .session _ happening _ => happening.act?

/-- What the rest of the server did by an entry. -/
def Entry.label? : Entry ρ → Option ρ
  | .around label => some label
  | .session _ _ _ => none

namespace System

/-- What the sessions have done, in order. -/
def acts (system : System σ ρ) : List SessionAct := system.history.filterMap Entry.act?

/-- What the rest of the server has done, in order. -/
def surroundings (system : System σ ρ) : List ρ := system.history.filterMap Entry.label?

variable (system : System σ ρ) (task : SessionTask σ) (world : World σ)

theorem acts_put_own (happened : List Happening) (registry : Registry) :
    (system.put task world (happened.map (.session task.info.id · registry))).acts =
      system.acts ++ actsOf happened := by
  unfold acts put actsOf
  rw [List.filterMap_append, List.filterMap_map]
  rfl

theorem acts_put_around (label : ρ) :
    (system.put task world [.around label]).acts = system.acts := by
  simp [acts, put, Entry.act?]

theorem acts_around (label : ρ) :
    ({ system with world := world, history := system.history ++ [.around label] } :
      System σ ρ).acts = system.acts := by
  simp [acts, Entry.act?]

theorem surroundings_put_own (happened : List Happening) (registry : Registry) :
    (system.put task world (happened.map (.session task.info.id · registry))).surroundings =
      system.surroundings := by
  have unlabelled : (Entry.label? ∘ (.session task.info.id · registry) : Happening → Option ρ) =
      fun _ => none := rfl
  unfold surroundings put
  rw [List.filterMap_append, List.filterMap_map, unlabelled]
  simp

theorem surroundings_put_around (label : ρ) :
    (system.put task world [.around label]).surroundings = system.surroundings ++ [label] := by
  simp [surroundings, put, Entry.label?]

theorem surroundings_around (label : ρ) :
    ({ system with world := world, history := system.history ++ [.around label] } :
      System σ ρ).surroundings = system.surroundings ++ [label] := by
  simp [surroundings, Entry.label?]

end System

/-! ### Frames that are counted -/

/-- The way in which an act moves a frame: in when it is read, out when it has
been delivered. -/
def SessionAct.direction? : SessionAct → Option Direction
  | .read _ _ => some .inward
  | .sent _ true => some .outward
  | _ => none

/-- The frames that some acts move in a direction. -/
def framesMoved (acts : List SessionAct) (direction : Direction) : Nat :=
  (acts.filterMap SessionAct.direction?).count direction

theorem framesMoved_append (acts more : List SessionAct) (direction : Direction) :
    framesMoved (acts ++ more) direction =
      framesMoved acts direction + framesMoved more direction := by
  simp [framesMoved]

/-- The handler was called to read a frame. -/
def SessionAct.isRead : SessionAct → Bool
  | .read _ _ => true
  | _ => false

/-- A frame has got out. -/
def SessionAct.isDelivery : SessionAct → Bool
  | .sent _ delivered => delivered
  | _ => false

theorem framesMoved_inward (acts : List SessionAct) :
    framesMoved acts .inward = acts.countP SessionAct.isRead := by
  rw [framesMoved, List.count_filterMap]
  apply List.countP_congr
  rintro (_ | _ | _ | ⟨frame, _ | _⟩ | _ | _) _ <;>
    simp [SessionAct.direction?, SessionAct.isRead]

theorem framesMoved_outward (acts : List SessionAct) :
    framesMoved acts .outward = acts.countP SessionAct.isDelivery := by
  rw [framesMoved, List.count_filterMap]
  apply List.countP_congr
  rintro (_ | _ | _ | ⟨frame, _ | _⟩ | _ | _) _ <;>
    simp [SessionAct.direction?, SessionAct.isDelivery]

/-- The counts have grown by the frames that some acts move, and by no request. -/
structure Metrics.Grown (before after : Metrics) (acts : List SessionAct) : Prop where
  requests : after.requests = before.requests
  frames : ∀ direction, after.frames.count direction =
    before.frames.count direction + (framesMoved acts direction : Int)

namespace Metrics

variable {before : Metrics} {acts : List SessionAct}

theorem grown_of_still {after : Metrics} (requests : after.requests = before.requests)
    (frames : after.frames = before.frames) (still : acts.filterMap SessionAct.direction? = []) :
    before.Grown after acts where
  requests := requests
  frames := fun direction => by simp [frames, framesMoved, still]

theorem grown_recordFrame {direction : Direction}
    (moved : acts.filterMap SessionAct.direction? = [direction]) :
    before.Grown (before.recordFrame direction) acts where
  requests := rfl
  frames := fun other => by
    have bumped : (before.recordFrame direction).frames.count other =
        before.frames.count other + if direction = other then 1 else 0 :=
      Tally.count_bump direction other 1 before.frames
    rw [bumped, framesMoved, moved, List.count_singleton]
    by_cases same : direction = other <;> simp [same]

end Metrics

section Moves

variable {handler : Handler σ} {info : SessionInfo} {phase next : Phase} {world after : World σ}
  {happened : List Happening}

theorem readFrame_grown (frame : Frame) (world : World σ) :
    world.metrics.Grown (readFrame handler info frame world).world.metrics
      (readFrame handler info frame world).acts := by
  apply Metrics.grown_recordFrame
  show (SessionAct.read frame _ :: _).filterMap SessionAct.direction? = [.inward]
  cases accepted : (handler.onRead info frame world.app).1 <;>
    simp [SessionAct.direction?]

theorem pollFrame_grown (sendable : Bool) (world : World σ) :
    world.metrics.Grown (pollFrame handler info sendable world).world.metrics
      (pollFrame handler info sendable world).acts := by
  cases polled : (handler.onWrite info world.app).1 with
  | none =>
      simp only [pollFrame, polled]
      exact Metrics.grown_of_still rfl rfl rfl
  | some frame =>
      simp only [pollFrame, polled]
      cases sendable with
      | true => exact Metrics.grown_recordFrame rfl
      | false => exact Metrics.grown_of_still rfl rfl rfl

theorem SessionEvent.step_grown (event : SessionEvent) (world : World σ) :
    world.metrics.Grown (event.step handler info world).world.metrics
      (event.step handler info world).acts := by
  cases event with
  | text value => exact readFrame_grown (.text value) world
  | binary content => exact readFrame_grown (.binary content) world
  | ping => exact Metrics.grown_of_still rfl rfl rfl
  | pong => exact Metrics.grown_of_still rfl rfl rfl
  | peerClosed => exact Metrics.grown_of_still rfl rfl rfl
  | receiveFailed => exact Metrics.grown_of_still rfl rfl rfl
  | streamEnded => exact Metrics.grown_of_still rfl rfl rfl
  | tick sendable => exact pollFrame_grown sendable world
  | stopped => exact Metrics.grown_of_still rfl rfl rfl

/-- No event of an open session moves a gauge. -/
theorem SessionEvent.step_sessions (event : SessionEvent) (world : World σ) :
    (event.step handler info world).world.metrics.sessions = world.metrics.sessions := by
  cases event with
  | text value => rfl
  | binary content => rfl
  | ping => rfl
  | pong => rfl
  | peerClosed => rfl
  | receiveFailed => rfl
  | streamEnded => rfl
  | stopped => rfl
  | tick sendable =>
      simp only [SessionEvent.step, pollFrame]
      split
      · rfl
      · split <;> rfl

/-- Every move of a session counts the frames that it moves. -/
theorem moves_grown (moves : Moves handler info phase world next after happened) :
    world.metrics.Grown after.metrics (actsOf happened) := by
  cases moves with
  | register => exact Metrics.grown_of_still rfl rfl rfl
  | announce => exact Metrics.grown_of_still rfl rfl rfl
  | goesOn event world continues =>
      rw [actsOf_turnOf]
      exact event.step_grown world
  | stops event world ends =>
      rw [actsOf_turnOf]
      exact event.step_grown world
  | unregister =>
      obtain ⟨requests, frames⟩ := Registry.remove_metrics world.registry world.metrics info.id
      exact Metrics.grown_of_still requests frames rfl
  | farewell => exact Metrics.grown_of_still rfl rfl rfl

/-- Every move keeps the gauges in step with the registry, of which a session
enters only what it is not in and leaves only what it is in. -/
theorem moves_gauged (moves : Moves handler info phase world next after happened)
    (listed : world.registry.get? info.id = phase.listing info)
    (gauged : Gauged world.registry world.metrics) : Gauged after.registry after.metrics := by
  cases moves with
  | register => exact gauged_insert gauged listed
  | announce => exact gauged
  | goesOn event world continues =>
      exact gauged.congr (event.step_registry handler info world).1 (event.step_sessions world)
  | stops event world ends =>
      exact gauged.congr (event.step_registry handler info world).1 (event.step_sessions world)
  | unregister => exact gauged_remove gauged _
  | farewell => exact gauged

end Moves

end WebHost
