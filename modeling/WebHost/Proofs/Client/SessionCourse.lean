/-
Module: WebHost.Proofs.Client.SessionCourse
Purpose: The course of a client's session over any events.
Main exports:
  framesOf, peerReason?, offerFrames, LoopOpen, takeStream_of_open, EndsWith, exists_endsWith,
  frames_delivered_once, peer_reason_reported_unless_idle, peer_reason_lost_to_silence
-/
import Mathlib.Data.List.Induction
import WebHost.Proofs.Session.Client

namespace WebHost

/-!
The loop of a client is open until an event ends it: the end of the connection,
an error, a long silence, or a frame that the callback refuses.  A close frame of
the peer does not end it; the loop keeps its reason and goes on.  What the loop
has done is told by the events up to its end, and nothing that comes later
changes it.
-/

/-- The reason in a close frame of the peer, empty if there is none. -/
def StreamEvent.reason? : StreamEvent → Option String
  | .close given => some (given.getD "")
  | _ => none

/-- The event ends the loop, whatever the callback says. -/
def StreamEvent.isEnd : StreamEvent → Bool
  | .disconnected | .ended | .failed | .idle => true
  | .frame _ | .control | .close _ => false

/-- The frames that come, in order. -/
def framesOf (events : List StreamEvent) : List Frame :=
  events.filterMap StreamEvent.frame?

/-- The reason in the last close frame that comes. -/
def peerReason? (events : List StreamEvent) : Option String :=
  (events.filterMap StreamEvent.reason?).getLast?

/-- The frame that is handed to the callback, and its answer. -/
def ClientAct.delivery? : ClientAct → Option (Frame × Bool)
  | .delivered frame accepted => some (frame, accepted)
  | _ => none

theorem peerReason?_close (given : Option String) (events : List StreamEvent)
    (reason : Option String) :
    (peerReason? (.close given :: events)).or reason =
      (peerReason? events).or (some (given.getD "")) := by
  rw [peerReason?, peerReason?, List.filterMap_cons_some (f := StreamEvent.reason?) rfl,
    List.getLast?_cons]
  cases (events.filterMap StreamEvent.reason?).getLast? <;> rfl

/-- There is no reason without a close frame. -/
theorem peerReason?_eq_none_iff (events : List StreamEvent) :
    peerReason? events = none ↔ ∀ given, StreamEvent.close given ∉ events := by
  rw [peerReason?, List.getLast?_eq_none_iff, List.filterMap_eq_nil_iff]
  constructor
  · intro silent given member
    cases silent _ member
  · intro unclosed event member
    cases event with
    | close given => exact absurd member (unclosed given)
    | frame | control | disconnected | failed | ended | idle => rfl

section Loop

variable {τ : Type} (onMessage : Frame → τ → Bool × τ)

/-- Frames that are offered to the callback until it refuses one, with its answers. -/
def offerFrames : List Frame → τ → List (Frame × Bool)
  | [], _ => []
  | frame :: rest, state =>
      if (onMessage frame state).1 then
        (frame, true) :: offerFrames rest (onMessage frame state).2
      else [(frame, false)]

/-- The state of the callback after it has been handed some frames. -/
def stateAfter (frames : List Frame) (state : τ) : τ :=
  frames.foldl (fun state frame => (onMessage frame state).2) state

/-- Nothing in some events ends the loop. -/
structure LoopOpen (events : List StreamEvent) (state : τ) : Prop where
  unended : ∀ event ∈ events, event.isEnd = false
  unrefused : ∀ offer ∈ offerFrames onMessage (framesOf events) state, offer.2 = true

variable {onMessage}
variable {events before after : List StreamEvent} {event : StreamEvent} {state : τ}

theorem loopOpen_nil (state : τ) : LoopOpen onMessage [] state :=
  ⟨nofun, nofun⟩

/-- The loop stays open over a frame if the callback accepts it. -/
theorem loopOpen_frame_iff {frame : Frame} :
    LoopOpen onMessage (.frame frame :: events) state ↔
      (onMessage frame state).1 = true ∧ LoopOpen onMessage events (onMessage frame state).2 := by
  have frames : framesOf (.frame frame :: events) = frame :: framesOf events := rfl
  constructor
  · rintro ⟨unended, unrefused⟩
    rw [frames, offerFrames] at unrefused
    cases accepted : (onMessage frame state).1 with
    | false =>
        rw [accepted] at unrefused
        exact absurd (unrefused (frame, false) List.mem_cons_self) Bool.false_ne_true
    | true =>
        rw [accepted, if_pos rfl] at unrefused
        exact ⟨rfl, fun event member => unended event (List.mem_cons_of_mem _ member),
          fun offer member => unrefused offer (List.mem_cons_of_mem _ member)⟩
  · rintro ⟨accepted, unended, unrefused⟩
    refine ⟨List.forall_mem_cons.2 ⟨rfl, unended⟩, ?_⟩
    rw [frames, offerFrames, if_pos accepted]
    exact List.forall_mem_cons.2 ⟨rfl, unrefused⟩

/-- The loop stays open over what is neither a frame nor its end. -/
theorem loopOpen_cons_iff (frameless : event.frame? = none) :
    LoopOpen onMessage (event :: events) state ↔
      event.isEnd = false ∧ LoopOpen onMessage events state := by
  have frames : framesOf (event :: events) = framesOf events :=
    List.filterMap_cons_none frameless
  constructor
  · rintro ⟨unended, unrefused⟩
    rw [frames] at unrefused
    obtain ⟨goesOn, unended⟩ := List.forall_mem_cons.1 unended
    exact ⟨goesOn, unended, unrefused⟩
  · rintro ⟨goesOn, unended, unrefused⟩
    refine ⟨List.forall_mem_cons.2 ⟨goesOn, unended⟩, ?_⟩
    rw [frames]
    exact unrefused

/-- Over events that leave the loop open it delivers their frames, keeps the
reason of the peer and goes on with what comes next. -/
theorem takeStream_of_open (opened : LoopOpen onMessage before state) (protocol : Option String)
    (received : Nat) (reason : Option String) (after : List StreamEvent) :
    takeStream onMessage protocol received reason (before ++ after) state =
      let next := takeStream onMessage protocol (received + (framesOf before).length)
        ((peerReason? before).or reason) after (stateAfter onMessage (framesOf before) state)
      ((framesOf before).map (.delivered · true) ++ next.1, next.2) := by
  -- Count, reason and callback are general: each event hands them on changed to the rest.
  induction before generalizing received reason state with
  | nil => rfl
  | cons event before ih =>
      cases event with
      | frame frame =>
          obtain ⟨accepted, opened⟩ := loopOpen_frame_iff.1 opened
          have count : received + (framesOf (.frame frame :: before)).length =
              received + 1 + (framesOf before).length := by
            rw [Nat.add_assoc, Nat.add_comm 1]
            rfl
          rw [List.cons_append, takeStream]
          simp only [accepted, if_true]
          rw [ih opened, count]
          rfl
      | control => exact ih ((loopOpen_cons_iff rfl).1 opened).2 received reason
      | close given =>
          rw [peerReason?_close]
          exact ih ((loopOpen_cons_iff rfl).1 opened).2 received (some (given.getD ""))
      | disconnected => cases ((loopOpen_cons_iff rfl).1 opened).1
      | failed => cases ((loopOpen_cons_iff rfl).1 opened).1
      | ended => cases ((loopOpen_cons_iff rfl).1 opened).1
      | idle => cases ((loopOpen_cons_iff rfl).1 opened).1

/-- The loop is open over some events and then more if it is open over the former
and, with the callback as it is then, over the latter. -/
theorem loopOpen_append_iff :
    LoopOpen onMessage (before ++ after) state ↔
      LoopOpen onMessage before state ∧
        LoopOpen onMessage after (stateAfter onMessage (framesOf before) state) := by
  induction before generalizing state with
  | nil => exact ⟨fun opened => ⟨loopOpen_nil state, opened⟩, fun opened => opened.2⟩
  | cons event before ih =>
      rw [List.cons_append]
      cases framed : event.frame? with
      | none =>
          have frames : framesOf (event :: before) = framesOf before :=
            List.filterMap_cons_none framed
          rw [loopOpen_cons_iff framed, loopOpen_cons_iff framed, ih, frames, and_assoc]
      | some frame =>
          cases event with
          | frame frame =>
              rw [loopOpen_frame_iff, loopOpen_frame_iff, ih, and_assoc]
              rfl
          | control | close | disconnected | failed | ended | idle => cases framed

variable (onMessage) in
/-- The loop takes some events and then one that ends it. -/
structure EndsWith (before : List StreamEvent) (event : StreamEvent) (state : τ) : Prop where
  opened : LoopOpen onMessage before state
  closed : ¬ LoopOpen onMessage (before ++ [event]) state

/-- What ends the loop, ends it with the callback as it is then. -/
theorem EndsWith.closes (ends : EndsWith onMessage before event state) :
    ¬ LoopOpen onMessage [event] (stateAfter onMessage (framesOf before) state) :=
  fun opened => ends.closed (loopOpen_append_iff.2 ⟨ends.opened, opened⟩)

/-- A loop that does not stay open ends with one of its events. -/
theorem exists_endsWith (closed : ¬ LoopOpen onMessage events state) :
    ∃ before event after, events = before ++ event :: after ∧
      EndsWith onMessage before event state := by
  -- From the end: the last event closes the loop unless it was closed before it.
  induction events using List.reverseRecOn with
  | nil => exact absurd (loopOpen_nil state) closed
  | append_singleton events last ih =>
      by_cases opened : LoopOpen onMessage events state
      · exact ⟨events, last, [], rfl, opened, closed⟩
      · obtain ⟨before, event, after, rfl, ends⟩ := ih opened
        exact ⟨before, event, after ++ [last], by simp, ends⟩

/-- The event that ends the loop settles how the session ends, and nothing after it
counts. -/
theorem takeStream_of_closed (closed : ¬ LoopOpen onMessage [event] state)
    (protocol : Option String) (received : Nat) (reason : Option String)
    (after : List StreamEvent) :
    let outcome := takeStream onMessage protocol received reason (event :: after) state
    outcome = takeStream onMessage protocol received reason [event] state ∧
      outcome.2.1 ≠ .running ∧
      (outcome.2.1 = .failed ↔ event = .failed ∧ reason = none) ∧
      ∀ summary, outcome.2.1 = .finished summary → summary.protocol = protocol ∧
        summary.closeReason = if event = .idle then some idleReason else reason := by
  cases event with
  | frame frame =>
      have refused : (onMessage frame state).1 = false :=
        eq_false_of_ne_true fun accepted =>
          closed (loopOpen_frame_iff.2 ⟨accepted, loopOpen_nil _⟩)
      simp [takeStream, refused]
  | control => exact absurd ((loopOpen_cons_iff rfl).2 ⟨rfl, loopOpen_nil _⟩) closed
  | close => exact absurd ((loopOpen_cons_iff rfl).2 ⟨rfl, loopOpen_nil _⟩) closed
  | disconnected => simp [takeStream]
  | ended => simp [takeStream]
  | idle => simp [takeStream]
  | failed => cases reason <;> simp [takeStream]

/-- A session whose loop ends has ended, with an error exactly if an error ends the
loop before the peer has announced its end. -/
theorem EndsWith.takeStream (ends : EndsWith onMessage before event state)
    (protocol : Option String) (received : Nat) (after : List StreamEvent) :
    let outcome := WebHost.takeStream onMessage protocol received none
      (before ++ event :: after) state
    outcome = WebHost.takeStream onMessage protocol received none (before ++ [event]) state ∧
      outcome.2.1 ≠ .running ∧
      (outcome.2.1 = .failed ↔ event = .failed ∧ peerReason? before = none) ∧
      ∀ summary, outcome.2.1 = .finished summary → summary.protocol = protocol ∧
        summary.closeReason = if event = .idle then some idleReason else peerReason? before := by
  intro outcome
  have steps := takeStream_of_open ends.opened protocol received none
  simp only [Option.or_none] at steps
  obtain ⟨settled, stops, fails, finishes⟩ := takeStream_of_closed ends.closes protocol
    (received + (framesOf before).length) (peerReason? before) after
  simp only [outcome, steps]
  exact ⟨by rw [settled], stops, fails, finishes⟩

/-- The session waits for more exactly while the loop is open. -/
theorem takeStream_running_iff (protocol : Option String) (received : Nat) :
    (takeStream onMessage protocol received none events state).2.1 = .running ↔
      LoopOpen onMessage events state := by
  constructor
  · intro waits
    by_contra closed
    obtain ⟨before, event, after, rfl, ends⟩ := exists_endsWith closed
    exact (ends.takeStream protocol received after).2.1 waits
  · intro opened
    have steps := takeStream_of_open opened protocol received none []
    rw [List.append_nil] at steps
    rw [steps]
    rfl

/-- A summary tells of an event that ended the loop, and reports the last reason of
the peer before it, unless that event is a long silence. -/
theorem takeStream_finished {protocol : Option String} {received : Nat}
    {summary : SessionSummary}
    (finished : (takeStream onMessage protocol received none events state).2.1 =
      .finished summary) :
    ∃ before event after, events = before ++ event :: after ∧
      EndsWith onMessage before event state ∧ summary.protocol = protocol ∧
      summary.closeReason = if event = .idle then some idleReason else peerReason? before := by
  have closed : ¬ LoopOpen onMessage events state := by
    intro opened
    rw [(takeStream_running_iff protocol received).2 opened] at finished
    cases finished
  obtain ⟨before, event, after, rfl, ends⟩ := exists_endsWith closed
  obtain ⟨-, -, -, finishes⟩ := ends.takeStream protocol received after
  exact ⟨before, event, after, rfl, ends, finishes summary finished⟩

/-- The session fails exactly if an error comes while the loop is open and before
any close frame. -/
theorem takeStream_failed_iff (protocol : Option String) (received : Nat) :
    (takeStream onMessage protocol received none events state).2.1 = .failed ↔
      ∃ before after, events = before ++ .failed :: after ∧
        LoopOpen onMessage before state ∧ ∀ given, StreamEvent.close given ∉ before := by
  constructor
  · intro failed
    have closed : ¬ LoopOpen onMessage events state := by
      intro opened
      rw [(takeStream_running_iff protocol received).2 opened] at failed
      cases failed
    obtain ⟨before, event, after, rfl, ends⟩ := exists_endsWith closed
    obtain ⟨-, -, fails, -⟩ := ends.takeStream protocol received after
    obtain ⟨rfl, silent⟩ := fails.1 failed
    exact ⟨before, after, rfl, ends.opened, (peerReason?_eq_none_iff before).1 silent⟩
  · rintro ⟨before, after, rfl, opened, unclosed⟩
    have ends : EndsWith onMessage before .failed state :=
      ⟨opened, fun further => by cases further.unended .failed (by simp)⟩
    obtain ⟨-, -, fails, -⟩ := ends.takeStream protocol received after
    exact fails.2 ⟨rfl, (peerReason?_eq_none_iff before).2 unclosed⟩

/-- The callback gets the frames that come before the connection is over, until it
refuses one. -/
theorem takeStream_deliveries (protocol : Option String) (received : Nat)
    (reason : Option String) :
    (takeStream onMessage protocol received reason events state).1.filterMap
        ClientAct.delivery? =
      offerFrames onMessage (framesOf (events.takeWhile (!·.isEnd))) state := by
  induction events generalizing received reason state with
  | nil => rfl
  | cons event events ih =>
      cases event with
      | frame frame =>
          have frames : framesOf ((StreamEvent.frame frame :: events).takeWhile (!·.isEnd)) =
              frame :: framesOf (events.takeWhile (!·.isEnd)) := rfl
          rw [frames, offerFrames, takeStream]
          cases accepted : (onMessage frame state).1 with
          | true => simp [accepted, ClientAct.delivery?, ih]
          | false => simp [accepted, ClientAct.delivery?]
      | control => exact ih received reason
      | close given => exact ih received (some (given.getD ""))
      | failed => cases reason <;> rfl
      | disconnected => rfl
      | ended => rfl
      | idle => rfl

end Loop

theorem filterMap_deliveredFrame? (acts : List ClientAct) :
    acts.filterMap ClientAct.deliveredFrame? =
      (acts.filterMap ClientAct.delivery?).map (·.1) := by
  rw [List.map_filterMap]
  congr
  funext act
  cases act <;> rfl

/-! ### The whole session -/

section Session

variable {τ : Type} (onMessage : Frame → τ → Bool × τ) (protocol : Option String)
  (greeting : String)

/-- A session first sends its greeting, and no other frame.  The frames that come
before the connection is over are handed on, each once and in order, up to the
first one that is refused; a summary counts them and names the protocol.  The
session fails exactly if the greeting does not get out or an error comes while the
loop is open and before any close frame.  What comes after the loop, such as what
is drained after the client's own close frame, counts for nothing. -/
theorem frames_delivered_once (sent : Bool) (events : List StreamEvent) (state : τ) :
    let session := fun events => runClientSession onMessage protocol greeting sent events state
    ((session events).1.head? = if sent then some (.greeted greeting) else none) ∧
      (session events).1.filterMap ClientAct.sentFrame? =
        (if sent then [.text greeting] else []) ∧
      (session events).1.filterMap ClientAct.delivery? =
        (if sent then offerFrames onMessage (framesOf (events.takeWhile (!·.isEnd))) state
          else []) ∧
      (∀ summary, (session events).2.1 = .finished summary →
        summary.framesReceived = ((session events).1.filterMap ClientAct.delivery?).length ∧
          summary.protocol = protocol) ∧
      ((session events).2.1 = .failed ↔
        sent = false ∨ ∃ before after, events = before ++ .failed :: after ∧
          LoopOpen onMessage before state ∧ ∀ given, StreamEvent.close given ∉ before) ∧
      ((session events).2.1 = .running ↔ sent = true ∧ LoopOpen onMessage events state) ∧
      (¬ LoopOpen onMessage events state → ∀ late, session (events ++ late) = session events) := by
  intro session
  have sends := runClientSession_sent onMessage protocol greeting sent events state
  have counts := (runClientSession_received onMessage protocol greeting sent events state).2
  rw [filterMap_deliveredFrame?, List.length_map] at counts
  cases sent with
  | false =>
      exact ⟨rfl, sends, rfl, nofun, iff_of_true rfl (.inl rfl), iff_of_false nofun nofun,
        fun _ _ => rfl⟩
  | true =>
      have greeted : ∀ events, session events =
          (.greeted greeting :: (takeStream onMessage protocol 0 none events state).1,
            (takeStream onMessage protocol 0 none events state).2) := fun _ => rfl
      refine ⟨rfl, sends, takeStream_deliveries protocol 0 none, fun summary finished => ?_,
        ?_, ?_, fun closed late => ?_⟩
      · obtain ⟨_, _, _, _, _, spoken, _⟩ := takeStream_finished finished
        exact ⟨counts summary finished, spoken⟩
      · rw [greeted, takeStream_failed_iff]
        simp
      · rw [greeted, takeStream_running_iff]
        simp
      · obtain ⟨before, event, after, rfl, ends⟩ := exists_endsWith closed
        rw [greeted, greeted, List.append_assoc, List.cons_append,
          (ends.takeStream protocol 0 (after ++ late)).1, (ends.takeStream protocol 0 after).1]

variable {onMessage protocol greeting}

/-- A summary reports the reason in the last close frame of the peer, unless the
client gave up: then it reports that, whether the peer had closed or not. -/
theorem peer_reason_reported_unless_idle {sent : Bool} {events : List StreamEvent} {state : τ}
    {summary : SessionSummary}
    (finished : (runClientSession onMessage protocol greeting sent events state).2.1 =
      .finished summary) :
    ∃ before event after, events = before ++ event :: after ∧
      EndsWith onMessage before event state ∧
      summary.closeReason = (if event = .idle then some idleReason else peerReason? before) ∧
      ∀ reason, peerReason? before = some reason →
        (summary.closeReason = some reason ↔ event ≠ .idle ∨ reason = idleReason) := by
  cases sent with
  | false => cases finished
  | true =>
      obtain ⟨before, event, after, split, ends, -, reported⟩ := takeStream_finished finished
      refine ⟨before, event, after, split, ends, reported, fun reason given => ?_⟩
      rw [reported, given]
      by_cases silent : event = .idle
      · simp [silent, eq_comm]
      · simp [silent]

/-- The reason of a peer that has closed is reported when its connection ends. -/
theorem peer_reason_reported_unless_idle_ended :
    let events := [.frame (.text "hello world"), .close (some "bye"), .ended]
    let summary : SessionSummary :=
      { protocol := some "p"
        framesReceived := 1
        closeReason := some "bye" }
    (runClientSession (fun _ _ => (true, ())) (some "p") "hello" true events ()).2.1 =
        .finished summary ∧
      ∃ before event after, events = before ++ event :: after ∧
        EndsWith (fun _ _ => (true, ())) before event () ∧
        summary.closeReason = if event = .idle then some idleReason else peerReason? before := by
  intro events summary
  have finished : (runClientSession (fun _ _ => (true, ())) (some "p") "hello" true events ()).2.1 =
      .finished summary := by decide
  obtain ⟨before, event, after, split, ends, reported, -⟩ :=
    peer_reason_reported_unless_idle finished
  exact ⟨finished, before, event, after, split, ends, reported⟩

/-- The reason of a peer that has closed is lost if the client then gives up. -/
theorem peer_reason_lost_to_silence :
    ¬ ∀ (onMessage : Frame → Unit → Bool × Unit) (before : List StreamEvent)
      (event : StreamEvent) (after : List StreamEvent) (summary : SessionSummary),
      EndsWith onMessage before event () →
      (runClientSession onMessage none "hello" true (before ++ event :: after) ()).2.1 =
        .finished summary →
      ∀ reason, peerReason? before = some reason → summary.closeReason = some reason := by
  intro always
  have opened : LoopOpen (fun _ _ => (true, ())) [.close (some "bye")] () := ⟨by decide, by decide⟩
  have ends : EndsWith (fun _ _ => (true, ())) [.close (some "bye")] .idle () :=
    ⟨opened, fun further => by cases further.unended .idle (by decide)⟩
  exact absurd (always _ _ _ [] _ ends rfl "bye" rfl) (by decide)

end Session

end WebHost
