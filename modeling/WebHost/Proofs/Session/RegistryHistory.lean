/-
Module: WebHost.Proofs.Session.RegistryHistory
Purpose: The registry and its gauge after any calls, told from the calls alone.
Main exports:
  RegistryCall, registryAfter, standing?, displaced, FollowsCalls,
  gauge_follows_registry_unless_displaced, gauge_overcounts_second_insertion
-/
import Mathlib.Algebra.BigOperators.Finprod
import Mathlib.Data.Set.Card
import WebHost.Proofs.Session.Gauge

namespace WebHost

/-!
Calls may come in any order: a number may be inserted again while a session
stands under it, and removed when none does.  The session under a number is told
by the last call about it.  An insertion under a number where a session stands
displaces that session, and the gauge of its protocol stays above the number of
sessions by one from then on.
-/

/-- A call on the registry. -/
inductive RegistryCall where
  | insert (info : SessionInfo)
  | remove (id : SessionId)
deriving Repr, Inhabited, DecidableEq

namespace RegistryCall

/-- The number that a call is about. -/
def id : RegistryCall → SessionId
  | .insert info => info.id
  | .remove id => id

/-- The session that a call leaves under its number. -/
def left? : RegistryCall → Option SessionInfo
  | .insert info => some info
  | .remove _ => none

/-- What a call answers, and the registry and the metrics after it. -/
def perform (registry : Registry) (metrics : Metrics) :
    RegistryCall → Option SessionInfo × Registry × Metrics
  | .insert info => (none, registry.insert metrics info)
  | .remove id => registry.remove metrics id

end RegistryCall

/-- The registry and the metrics after some calls, empty before the first one. -/
def registryAfter (calls : List RegistryCall) : Registry × Metrics :=
  calls.foldl (fun state call => (call.perform state.1 state.2).2) (.empty, .empty)

theorem registryAfter_concat (calls : List RegistryCall) (call : RegistryCall) :
    registryAfter (calls ++ [call]) =
      (call.perform (registryAfter calls).1 (registryAfter calls).2).2 := by
  rw [registryAfter, List.foldl_concat]
  rfl

/-! ### What the calls tell -/

/-- The session that was inserted last under a number and not removed since. -/
def standing? (calls : List RegistryCall) (id : SessionId) : Option SessionInfo :=
  (calls.filter (·.id = id)).getLast?.bind RegistryCall.left?

theorem standing?_concat (calls : List RegistryCall) (call : RegistryCall) (id : SessionId) :
    standing? (calls ++ [call]) id = if call.id = id then call.left? else standing? calls id := by
  rw [standing?, List.filter_append]
  by_cases same : call.id = id <;> simp [standing?, same]

/-- The session in whose place a call puts another one, after the calls before. -/
def RegistryCall.displaces? (before : List RegistryCall) : RegistryCall → Option SessionInfo
  | .insert info => standing? before info.id
  | .remove _ => none

/-- The sessions that some calls displace, after the calls before. -/
def displacedAfter (before : List RegistryCall) : List RegistryCall → List SessionInfo
  | [] => []
  | call :: rest => (call.displaces? before).toList ++ displacedAfter (before ++ [call]) rest

/-- The sessions that some calls displace. -/
def displaced (calls : List RegistryCall) : List SessionInfo :=
  displacedAfter [] calls

theorem displacedAfter_concat (before calls : List RegistryCall) (call : RegistryCall) :
    displacedAfter before (calls ++ [call]) =
      displacedAfter before calls ++ (call.displaces? (before ++ calls)).toList := by
  induction calls generalizing before with
  | nil => simp [displacedAfter]
  | cons first rest ih =>
      rw [List.cons_append, displacedAfter, displacedAfter, ih, List.append_assoc,
        List.append_assoc, List.singleton_append]

theorem displaced_concat (calls : List RegistryCall) (call : RegistryCall) :
    displaced (calls ++ [call]) = displaced calls ++ (call.displaces? calls).toList :=
  displacedAfter_concat [] calls call

/-! ### The registry follows -/

/-- A registry and its metrics stand as some calls tell. -/
structure FollowsCalls (calls : List RegistryCall) (registry : Registry) (metrics : Metrics) :
    Prop where
  distinct : registry.Distinct
  holds : ∀ id, registry.get? id = standing? calls id
  drifts : ∀ protocol,
    gaugeDrift registry metrics protocol = speakers protocol (displaced calls)

/-- Every call leaves them standing as the calls tell. -/
theorem followsCalls_perform {calls : List RegistryCall} {registry : Registry}
    {metrics : Metrics} (follows : FollowsCalls calls registry metrics) (call : RegistryCall) :
    FollowsCalls (calls ++ [call]) (call.perform registry metrics).2.1
      (call.perform registry metrics).2.2 := by
  cases call with
  | insert info =>
      refine ⟨Registry.distinct_insert follows.distinct metrics, fun id => ?_, fun protocol => ?_⟩
      · rw [standing?_concat, ← follows.holds id]
        apply (Registry.get?_insert registry metrics info id).trans
        exact ite_congr (propext eq_comm) (fun _ => rfl) (fun _ => rfl)
      · -- What stood under the number is displaced, and the gauge did not go down for it.
        apply (gaugeDrift_insert follows.distinct protocol).trans
        rw [follows.drifts, follows.holds, displaced_concat, speakers_append]
        rfl
  | remove id =>
      refine ⟨Registry.distinct_remove follows.distinct metrics id, fun key => ?_,
        fun protocol => ?_⟩
      · rw [standing?_concat, ← follows.holds key]
        apply (Registry.get?_remove registry metrics id key).trans
        exact ite_congr (propext eq_comm) (fun _ => rfl) (fun _ => rfl)
      · apply (gaugeDrift_remove follows.distinct id protocol).trans
        rw [follows.drifts, displaced_concat, speakers_append]
        rfl

theorem followsCalls_registryAfter (calls : List RegistryCall) :
    FollowsCalls calls (registryAfter calls).1 (registryAfter calls).2 := by
  induction calls using List.reverseRecOn with
  | nil => exact ⟨List.nodup_nil, fun _ => rfl, fun _ => rfl⟩
  | append_singleton calls call ih =>
      rw [registryAfter_concat]
      exact followsCalls_perform ih call

/-! ### Its size -/

namespace Registry

variable {registry : Registry}

/-- The size of a registry is the number of its sessions, whichever number each
has. -/
theorem size_eq_ncard (distinct : registry.Distinct) :
    registry.size = {id | (registry.get? id).isSome}.ncard := by
  have listed : {id | (registry.get? id).isSome} =
      ((registry.sessions.map (·.1)).toFinset : Set SessionId) := by
    ext id
    rw [Set.mem_ofPred_eq, Finset.mem_coe, List.mem_toFinset]
    exact lookup_isSome_iff_mem_keys registry.sessions id
  rw [listed, Set.ncard_coe_finset, List.toFinset_card_of_nodup distinct, List.length_map]
  rfl

theorem countProtocol_eq_count (registry : Registry) (protocol : String) :
    registry.countProtocol protocol =
      (registry.sessions.map (·.2.protocol)).count protocol := by
  rw [countProtocol, ← List.countP_eq_length_filter, List.count, List.countP_map]
  rfl

/-- Every session speaks one protocol. -/
theorem size_eq_finsum_countProtocol (registry : Registry) :
    registry.size = ∑ᶠ protocol, registry.countProtocol protocol := by
  have spoken : (Function.support fun protocol => registry.countProtocol protocol) ⊆
      ((registry.sessions.map (·.2.protocol)).toFinset : Set String) := by
    intro protocol counted
    rw [Function.mem_support, countProtocol_eq_count] at counted
    rw [Finset.mem_coe, List.mem_toFinset]
    exact List.count_pos_iff.1 (Nat.pos_of_ne_zero counted)
  rw [finsum_eq_sum_of_support_subset _ spoken]
  simp only [countProtocol_eq_count]
  rw [List.sum_toFinset_count_eq_length, List.length_map]
  rfl

end Registry

theorem speakers_eq_zero_iff (protocol : String) (sessions : List SessionInfo) :
    speakers protocol sessions = 0 ↔ ∀ info ∈ sessions, info.protocol ≠ protocol := by
  simp [speakers, List.countP_eq_zero]

/-- After any calls the gauge of a protocol is above the number of its sessions by
those of its sessions that were displaced, so that it shows that number exactly
if none was.  The registry has one session for each number that is left standing
and as many as all protocols together.  A removal answers with the session that
stands under its number; without one it changes nothing. -/
theorem gauge_follows_registry_unless_displaced (calls : List RegistryCall) :
    let registry := (registryAfter calls).1
    let metrics := (registryAfter calls).2
    (∀ protocol, metrics.sessions.count protocol =
        registry.countProtocol protocol + speakers protocol (displaced calls)) ∧
      (∀ protocol, metrics.sessions.count protocol = registry.countProtocol protocol ↔
        ∀ info ∈ displaced calls, info.protocol ≠ protocol) ∧
      registry.size = {id | (standing? calls id).isSome}.ncard ∧
      registry.size = ∑ᶠ protocol, registry.countProtocol protocol ∧
      ∀ id, (registry.remove metrics id).1 = standing? calls id ∧
        (standing? calls id = none → registry.remove metrics id = (none, registry, metrics)) := by
  intro registry metrics
  have follows : FollowsCalls calls registry metrics := followsCalls_registryAfter calls
  have above : ∀ protocol, metrics.sessions.count protocol =
      registry.countProtocol protocol + speakers protocol (displaced calls) := by
    intro protocol
    have drifts := follows.drifts protocol
    rw [gaugeDrift] at drifts
    omega
  refine ⟨above, fun protocol => ?_, ?_, registry.size_eq_finsum_countProtocol, fun id => ?_⟩
  · rw [← speakers_eq_zero_iff, above]
    omega
  · simp only [← follows.holds]
    exact Registry.size_eq_ncard follows.distinct
  · rw [← follows.holds id]
    cases found : registry.get? id with
    | none => exact ⟨by rw [Registry.remove, found], fun _ => by rw [Registry.remove, found]⟩
    | some info => exact ⟨by rw [Registry.remove, found], fun absent => by cases absent⟩

/-- A session that is inserted twice is one session and counts twice. -/
theorem gauge_overcounts_second_insertion :
    ¬ ∀ (calls : List RegistryCall) (protocol : String),
      (registryAfter calls).2.sessions.count protocol =
        (registryAfter calls).1.countProtocol protocol := by
  intro always
  let info : SessionInfo := { id := 1, protocol := "p", peer := none }
  exact absurd (always [.insert info, .insert info] "p") (by decide)

end WebHost
