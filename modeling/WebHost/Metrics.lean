/-
Module: WebHost.Metrics
Purpose: What the server counts.
Main exports:
  Metrics, RequestLabel, Metrics.recordRequest, Metrics.sessionOpened,
  Metrics.sessionClosed, Metrics.recordFrame, MetricRow, Metrics.rows
-/
import WebHost.Number.Natural

namespace WebHost

open Number

/-!
Requests are counted by method, status and service, in a counter and in a
histogram of durations with as many samples.  Open sessions are a gauge for
each protocol, frames a counter for each direction.
-/

/-- What requests are counted by. -/
structure RequestLabel where
  method : String
  status : Nat
  service : String
deriving Repr, Inhabited, DecidableEq

/-- The way of a frame, as the server sees it. -/
inductive Direction where
  | inward
  | outward
deriving Repr, Inhabited, DecidableEq

def Direction.name : Direction → String
  | .inward => "in"
  | .outward => "out"

/-- Numbers by key; a key that is not listed has the number zero. -/
abbrev Tally (κ : Type) := List (κ × Int)

namespace Tally

variable {κ : Type} [DecidableEq κ]

/-- The number of a key. -/
def count (tally : Tally κ) (key : κ) : Int :=
  (tally.lookup key).getD 0

/-- Add to the number of a key, which is listed from then on. -/
def bump (key : κ) (amount : Int) : Tally κ → Tally κ
  | [] => [(key, amount)]
  | (first, number) :: rest =>
      if first = key then (first, number + amount) :: rest
      else (first, number) :: bump key amount rest

theorem count_nil (key : κ) : count ([] : Tally κ) key = 0 := rfl

theorem count_cons (first key : κ) (number : Int) (rest : Tally κ) :
    count ((first, number) :: rest) key = if key = first then number else rest.count key := by
  unfold count
  rw [List.lookup_cons]
  by_cases same : key = first
  · simp [same]
  · simp [same, beq_false_of_ne same]

theorem count_bump (key other : κ) (amount : Int) (tally : Tally κ) :
    (bump key amount tally).count other =
      tally.count other + if key = other then amount else 0 := by
  induction tally with
  | nil =>
      rw [bump, count_cons, count_nil, Int.zero_add]
      by_cases same : key = other
      · rw [if_pos same, if_pos same.symm]
      · rw [if_neg same, if_neg fun same' => same same'.symm]
  | cons entry rest ih =>
      obtain ⟨first, number⟩ := entry
      by_cases here : first = key
      · rw [bump, if_pos here, count_cons, count_cons, ← here]
        by_cases same : other = first
        · rw [if_pos same, if_pos same, if_pos same.symm]
        · rw [if_neg same, if_neg same, if_neg fun same' => same same'.symm, Int.add_zero]
      · rw [bump, if_neg here, count_cons, count_cons, ih]
        by_cases same : other = first
        · have apart : ¬ key = other := fun same' => here (same'.trans same).symm
          rw [if_pos same, if_pos same, if_neg apart, Int.add_zero]
        · rw [if_neg same, if_neg same]

end Tally

/-- All counts of a server. -/
structure Metrics where
  requests : Tally RequestLabel
  sessions : Tally String
  frames : Tally Direction
deriving Repr, Inhabited, DecidableEq

namespace Metrics

def empty : Metrics :=
  { requests := []
    sessions := []
    frames := [] }

/-- Count an answered request. -/
def recordRequest (metrics : Metrics) (label : RequestLabel) : Metrics :=
  { metrics with requests := Tally.bump label 1 metrics.requests }

/-- Count a session that opened. -/
def sessionOpened (metrics : Metrics) (protocol : String) : Metrics :=
  { metrics with sessions := Tally.bump protocol 1 metrics.sessions }

/-- Count a session that closed. -/
def sessionClosed (metrics : Metrics) (protocol : String) : Metrics :=
  { metrics with sessions := Tally.bump protocol (-1) metrics.sessions }

/-- Count a frame. -/
def recordFrame (metrics : Metrics) (direction : Direction) : Metrics :=
  { metrics with frames := Tally.bump direction 1 metrics.frames }

end Metrics

/-- One published number. -/
structure MetricRow where
  name : String
  labels : List (String × String)
  value : Int
deriving Repr, Inhabited, DecidableEq

/-- The row of a request count under some name. -/
def RequestLabel.row (name : String) (label : RequestLabel) (value : Int) : MetricRow :=
  { name := name
    labels :=
      [("method", label.method),
       ("service", label.service),
       ("status", naturalText label.status)]
    value := value }

/-- Every number as it is published. -/
def Metrics.rows (metrics : Metrics) : List MetricRow :=
  metrics.requests.map (fun (label, value) =>
      label.row "webservice_requests_total" value) ++
    metrics.requests.map (fun (label, value) =>
      label.row "webservice_request_duration_seconds" value) ++
    metrics.sessions.map (fun (protocol, value) =>
      { name := "websocket_sessions_active"
        labels := [("protocol", protocol)]
        value := value }) ++
    metrics.frames.map (fun (direction, value) =>
      { name := "websocket_frames_total"
        labels := [("direction", direction.name)]
        value := value })

end WebHost
