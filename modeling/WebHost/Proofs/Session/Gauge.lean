/-
Module: WebHost.Proofs.Session.Gauge
Purpose: The gauge of open sessions and the registry that it stands for.
Main exports:
  Registry.Distinct, speakers, Registry.countProtocol_without, gaugeDrift, gaugeDrift_insert,
  gaugeDrift_remove, Gauged, gauged_insert, gauged_remove
-/
import WebHost.Proofs.Session.Registry

namespace WebHost

/-!
The gauge of a protocol moves by one with every insertion and every removal, and
so does the number of its sessions in the registry, with one exception: an
insertion under a number that is there puts out a session, of which the gauge
learns nothing.  So the two drift apart by the sessions put out, and by no other
step.
-/

namespace Registry

variable {registry : Registry} {id : SessionId} {info : SessionInfo}

/-- No number is listed twice. -/
def Distinct (registry : Registry) : Prop :=
  (registry.sessions.map (·.1)).Nodup

theorem remove_of_present (present : registry.get? id = some info) (metrics : Metrics) :
    registry.remove metrics id =
      (some info, { sessions := registry.sessions.filter (·.1 ≠ id) },
        metrics.sessionClosed info.protocol) := by
  rw [remove, present]

/-- A removal moves gauges at most. -/
theorem remove_metrics (registry : Registry) (metrics : Metrics) (id : SessionId) :
    (registry.remove metrics id).2.2.requests = metrics.requests ∧
      (registry.remove metrics id).2.2.frames = metrics.frames := by
  unfold remove
  split <;> exact ⟨rfl, rfl⟩

theorem distinct_insert (distinct : registry.Distinct) (metrics : Metrics) :
    (registry.insert metrics info).1.Distinct := by
  show ((registry.sessions.filter (·.1 ≠ info.id) ++ [(info.id, info)]).map (·.1)).Nodup
  rw [List.map_append, List.nodup_append]
  refine ⟨List.Sublist.nodup (List.Sublist.map _ List.filter_sublist) distinct, by simp, ?_⟩
  intro number listed other among
  obtain ⟨entry, member, rfl⟩ := List.mem_map.1 listed
  rw [List.map_singleton, List.mem_singleton] at among
  rw [among]
  exact of_decide_eq_true (List.mem_filter.1 member).2

theorem distinct_remove (distinct : registry.Distinct) (metrics : Metrics) (id : SessionId) :
    (registry.remove metrics id).2.1.Distinct := by
  unfold remove
  split
  · exact List.Sublist.nodup (List.Sublist.map _ List.filter_sublist) distinct
  · exact distinct

end Registry

/-- How many of some sessions speak a protocol. -/
def speakers (protocol : String) (sessions : List SessionInfo) : Nat :=
  sessions.countP (·.protocol = protocol)

theorem speakers_append (protocol : String) (first second : List SessionInfo) :
    speakers protocol (first ++ second) = speakers protocol first + speakers protocol second :=
  List.countP_append

theorem speakers_singleton (protocol : String) (info : SessionInfo) :
    speakers protocol [info] = if info.protocol = protocol then 1 else 0 := by
  simp [speakers]

namespace Registry

variable {registry : Registry}

/-- What is taken out with a number is the session under it. -/
theorem countProtocol_without (distinct : registry.Distinct) (id : SessionId)
    (protocol : String) :
    countProtocol { sessions := registry.sessions.filter (·.1 ≠ id) } protocol +
        speakers protocol (registry.get? id).toList = registry.countProtocol protocol := by
  cases found : registry.get? id with
  | none => rw [filter_ne_of_lookup found]; rfl
  | some info =>
      obtain ⟨before, after, split, rest⟩ := exists_split_of_lookup distinct found
      rw [countProtocol, countProtocol, rest, split, Option.toList_some, speakers_singleton]
      by_cases same : info.protocol = protocol <;> simp [same, Nat.add_assoc]

/-- An insertion adds a session and puts out the one under its number. -/
theorem countProtocol_insert (distinct : registry.Distinct) (metrics : Metrics)
    (info : SessionInfo) (protocol : String) :
    (registry.insert metrics info).1.countProtocol protocol +
        speakers protocol (registry.get? info.id).toList =
      registry.countProtocol protocol + speakers protocol [info] := by
  have added : (registry.insert metrics info).1.countProtocol protocol =
      countProtocol { sessions := registry.sessions.filter (·.1 ≠ info.id) } protocol +
        speakers protocol [info] := by
    rw [speakers_singleton]
    simp only [insert, countProtocol, List.filter_append, List.length_append]
    by_cases same : info.protocol = protocol <;> simp [same]
  rw [added, ← countProtocol_without distinct info.id protocol]
  omega

/-- A removal counts for the protocol of the session that was there. -/
theorem countProtocol_remove (distinct : registry.Distinct) (metrics : Metrics)
    (id : SessionId) (protocol : String) :
    (registry.remove metrics id).2.1.countProtocol protocol +
        speakers protocol (registry.get? id).toList = registry.countProtocol protocol := by
  cases found : registry.get? id with
  | none =>
      rw [remove, found]
      rfl
  | some info =>
      rw [remove_of_present found, ← found]
      exact countProtocol_without distinct id protocol

end Registry

/-! ### The gauge -/

/-- How far the gauge of a protocol is above the number of its sessions. -/
def gaugeDrift (registry : Registry) (metrics : Metrics) (protocol : String) : Int :=
  metrics.sessions.count protocol - registry.countProtocol protocol

/-- The gauge of every protocol shows its sessions in the registry. -/
structure Gauged (registry : Registry) (metrics : Metrics) : Prop where
  distinct : registry.Distinct
  shown : ∀ protocol, metrics.sessions.count protocol = (registry.countProtocol protocol : Int)

section Gauge

variable {registry : Registry} {metrics : Metrics} {info : SessionInfo}

/-- An insertion makes the gauge of the session that it puts out drift. -/
theorem gaugeDrift_insert (distinct : registry.Distinct) (protocol : String) :
    gaugeDrift (registry.insert metrics info).1 (registry.insert metrics info).2 protocol =
      gaugeDrift registry metrics protocol +
        speakers protocol (registry.get? info.id).toList := by
  have moved : (registry.insert metrics info).2.sessions.count protocol =
      metrics.sessions.count protocol + if info.protocol = protocol then 1 else 0 :=
    Tally.count_bump info.protocol protocol 1 metrics.sessions
  have counted := Registry.countProtocol_insert distinct metrics info protocol
  rw [speakers_singleton] at counted
  rw [gaugeDrift, gaugeDrift, moved]
  by_cases same : info.protocol = protocol
  · rw [if_pos same] at counted ⊢
    omega
  · rw [if_neg same] at counted ⊢
    omega

/-- A removal lets no gauge drift. -/
theorem gaugeDrift_remove (distinct : registry.Distinct) (id : SessionId) (protocol : String) :
    gaugeDrift (registry.remove metrics id).2.1 (registry.remove metrics id).2.2 protocol =
      gaugeDrift registry metrics protocol := by
  have counted := Registry.countProtocol_remove distinct metrics id protocol
  cases found : registry.get? id with
  | none => rw [Registry.remove, found]
  | some info =>
      have moved : (registry.remove metrics id).2.2.sessions.count protocol =
          metrics.sessions.count protocol + if info.protocol = protocol then -1 else 0 := by
        rw [Registry.remove_of_present found]
        exact Tally.count_bump info.protocol protocol (-1) metrics.sessions
      rw [found, Option.toList_some, speakers_singleton] at counted
      rw [gaugeDrift, gaugeDrift, moved]
      by_cases same : info.protocol = protocol
      · rw [if_pos same] at counted ⊢
        omega
      · rw [if_neg same] at counted ⊢
        omega

theorem gauged_iff :
    Gauged registry metrics ↔
      registry.Distinct ∧ ∀ protocol, gaugeDrift registry metrics protocol = 0 := by
  constructor
  · intro gauged
    exact ⟨gauged.distinct, fun protocol => Int.sub_eq_zero.2 (gauged.shown protocol)⟩
  · rintro ⟨distinct, still⟩
    exact ⟨distinct, fun protocol => Int.sub_eq_zero.1 (still protocol)⟩

theorem Gauged.congr {other : Registry} {moved : Metrics}
    (gauged : Gauged registry metrics) (registries : other = registry)
    (sessions : moved.sessions = metrics.sessions) : Gauged other moved where
  distinct := registries ▸ gauged.distinct
  shown := fun protocol => by rw [sessions, registries, gauged.shown]

theorem gauged_empty : Gauged .empty .empty where
  distinct := List.nodup_nil
  shown := fun _ => rfl

theorem gauged_insert (gauged : Gauged registry metrics)
    (absent : registry.get? info.id = none) :
    Gauged (registry.insert metrics info).1 (registry.insert metrics info).2 := by
  obtain ⟨distinct, still⟩ := gauged_iff.1 gauged
  refine gauged_iff.2 ⟨Registry.distinct_insert distinct metrics, fun protocol => ?_⟩
  rw [gaugeDrift_insert distinct, still, absent]
  rfl

theorem gauged_remove (gauged : Gauged registry metrics) (id : SessionId) :
    Gauged (registry.remove metrics id).2.1 (registry.remove metrics id).2.2 := by
  obtain ⟨distinct, still⟩ := gauged_iff.1 gauged
  refine gauged_iff.2 ⟨Registry.distinct_remove distinct metrics id, fun protocol => ?_⟩
  rw [gaugeDrift_remove distinct, still]

end Gauge

end WebHost
