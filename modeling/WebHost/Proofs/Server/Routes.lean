/-
Module: WebHost.Proofs.Server.Routes
Purpose: When a request without an upgrade takes which route.
Main exports:
  Method.ofToken?_eq_some_iff, entry?_eq_some_iff_split, Routed, route_eq_iff_routed
-/
import WebHost.Server.Route

namespace WebHost

/-!
The decision on a request is opened here and nowhere else.  Each route has one
reason, which says what has been found and what has been looked for before.
-/

theorem Method.ofToken?_eq_some_iff {token : String} {method : Method} :
    Method.ofToken? token = some method ↔ token = method.name := by
  constructor
  · intro found
    have same : method.name = token := by simpa using List.find?_some found
    exact same.symm
  · rintro rfl
    cases method <;> decide

theorem Method.ofToken?_eq_none_iff {token : String} :
    Method.ofToken? token = none ↔ ∀ method : Method, token ≠ method.name := by
  constructor
  · intro missing method named
    rw [Method.ofToken?_eq_some_iff.2 named] at missing
    cases missing
  · intro foreign
    cases found : Method.ofToken? token with
    | none => rfl
    | some method => exact absurd (Method.ofToken?_eq_some_iff.1 found) (foreign method)

variable {σ : Type}

/-- The entry point that a path names, by the parts that the path is split into. -/
theorem entry?_eq_some_iff_split {server : Server σ} {path : String} {method : Method}
    {service rest : String} {run : EntryPoint σ} :
    server.entry? path method = some (service, rest, run) ↔
      splitServicePath path = some (service, rest) ∧
        ∃ mounted, server.service? service = some mounted ∧
          mounted.lookup? rest method = some run := by
  unfold Server.entry?
  simp only [bind, Option.bind_eq_some_iff, Option.some.injEq, Prod.mk.injEq, Prod.exists]
  constructor
  · rintro ⟨name, below, split, mounted, registered, found, lookup, rfl, rfl, rfl⟩
    exact ⟨split, mounted, registered, lookup⟩
  · rintro ⟨split, mounted, registered, lookup⟩
    exact ⟨service, rest, split, mounted, registered, run, lookup, rfl, rfl, rfl⟩

/-- The reasons for the routes. -/
inductive Routed (server : Server σ) (files : FileSystem) (incoming : Incoming) :
    Route σ → Prop where
  | methodNotAllowed (foreign : ∀ method : Method, incoming.method ≠ method.name) :
      Routed server files incoming .methodNotAllowed
  | undecodable (method : Method) (served : incoming.method = method.name)
      (notText : percentDecodeText? incoming.target.path = none) :
      Routed server files incoming .undecodable
  | resource (path : String) (location : Location)
      (served : incoming.method = Method.get.name)
      (decoded : percentDecodeText? incoming.target.path = some path)
      (resolved : server.resource? files path = some location) :
      Routed server files incoming (.resource location)
  | entry (method : Method) (path service rest : String) (run : EntryPoint σ)
      (served : incoming.method = method.name)
      (decoded : percentDecodeText? incoming.target.path = some path)
      (noFile : method = .get → server.resource? files path = none)
      (found : server.entry? path method = some (service, rest, run)) :
      Routed server files incoming (.entry service rest method run)
  | unmatched (method : Method) (path : String) (served : incoming.method = method.name)
      (decoded : percentDecodeText? incoming.target.path = some path)
      (noFile : method = .get → server.resource? files path = none)
      (noEntry : server.entry? path method = none) :
      Routed server files incoming .unmatched

variable {server : Server σ} {files : FileSystem} {incoming : Incoming}

/-- Every route is taken for its reason. -/
theorem routed_route (server : Server σ) (files : FileSystem) (incoming : Incoming) :
    Routed server files incoming (server.route files incoming) := by
  unfold Server.route
  cases token : Method.ofToken? incoming.method with
  | none => exact .methodNotAllowed (Method.ofToken?_eq_none_iff.1 token)
  | some method =>
      have served := Method.ofToken?_eq_some_iff.1 token
      cases decoded : percentDecodeText? incoming.target.path with
      | none => exact .undecodable method served decoded
      | some path =>
          dsimp only
          cases file : (if method = .get then server.resource? files path else none) with
          | some location =>
              obtain ⟨rfl, resolved⟩ := Option.ite_none_right_eq_some.1 file
              exact .resource path location served decoded resolved
          | none =>
              have noFile : method = .get → server.resource? files path = none :=
                fun get => by simpa [get] using file
              cases entry : server.entry? path method with
              | none => exact .unmatched method path served decoded noFile entry
              | some found =>
                  obtain ⟨service, rest, run⟩ := found
                  exact .entry method path service rest run served decoded noFile entry

/-- And every reason leads to its route. -/
theorem route_of_routed {route : Route σ} (reason : Routed server files incoming route) :
    server.route files incoming = route := by
  unfold Server.route
  cases reason with
  | methodNotAllowed foreign => rw [Method.ofToken?_eq_none_iff.2 foreign]
  | undecodable method served notText => rw [Method.ofToken?_eq_some_iff.2 served, notText]
  | resource path location served decoded resolved =>
      rw [Method.ofToken?_eq_some_iff.2 served, decoded]
      simp [resolved]
  | entry method path service rest run served decoded noFile found =>
      have file : (if method = .get then server.resource? files path else none) = none := by
        simpa using noFile
      rw [Method.ofToken?_eq_some_iff.2 served, decoded]
      simp only [file, found]
  | unmatched method path served decoded noFile noEntry =>
      have file : (if method = .get then server.resource? files path else none) = none := by
        simpa using noFile
      rw [Method.ofToken?_eq_some_iff.2 served, decoded]
      simp only [file, noEntry]

theorem route_eq_iff_routed {route : Route σ} :
    server.route files incoming = route ↔ Routed server files incoming route := by
  constructor
  · rintro rfl
    exact routed_route server files incoming
  · exact route_of_routed

end WebHost
