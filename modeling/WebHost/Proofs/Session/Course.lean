/-
Module: WebHost.Proofs.Session.Course
Purpose: What can happen in the life of one session, and in which order.
Main exports:
  TurnActs, turnActs_step, Course, course_moves, LifeCycle, Course.lifeCycle
-/
import WebHost.Proofs.Session.System

namespace WebHost

/-!
The life of a session is its opening, any number of events after which it goes
on, one event that ends it and its closing.  What is done about one event is a
matter of a few acts.  So the laws of a whole life follow from those of a single
event: nothing that goes on refuses a frame or sends a close frame, and what
ends a session does so at most once.
-/

/-! ### Acts by their kind -/

namespace SessionAct

/-- The act is a call of the handler. -/
def isCall : SessionAct → Bool
  | .opened | .read _ _ | .polled _ | .closed => true
  | _ => false

/-- The act is a call that exchanges frames. -/
def isExchange : SessionAct → Bool
  | .read _ _ | .polled _ => true
  | _ => false

/-- The frame that the handler was asked to read. -/
def readFrame? : SessionAct → Option Frame
  | .read frame _ => some frame
  | _ => none

/-- The frame that the handler handed out. -/
def polledFrame? : SessionAct → Option Frame
  | .polled frame => frame
  | _ => none

/-- The frame that was handed to the socket. -/
def sentFrame? : SessionAct → Option Frame
  | .sent frame _ => some frame
  | _ => none

end SessionAct

/-! ### One event -/

/-- What is done about an event, and whether the session goes on after it. -/
inductive TurnActs : SessionEvent → List SessionAct → Bool → Prop where
  | accepted (event : SessionEvent) (frame : Frame) (brings : event.frame? = some frame) :
      TurnActs event [.read frame true] true
  | refused (event : SessionEvent) (frame : Frame) (brings : event.frame? = some frame) :
      TurnActs event [.read frame false, .sentClose] false
  | ignored (event : SessionEvent) (control : event = .ping ∨ event = .pong) :
      TurnActs event [] true
  | gone (event : SessionEvent)
      (lost : event = .peerClosed ∨ event = .receiveFailed ∨ event = .streamEnded) :
      TurnActs event [] false
  | silent (sendable : Bool) : TurnActs (.tick sendable) [.polled none] true
  | handed (frame : Frame) (delivered : Bool) :
      TurnActs (.tick delivered) [.polled (some frame), .sent frame delivered] delivered
  | stopped : TurnActs .stopped [.sentClose] false

theorem turnActs_readFrame {σ : Type} (handler : Handler σ) (info : SessionInfo)
    {event : SessionEvent} {frame : Frame} (brings : event.frame? = some frame)
    (world : World σ) :
    TurnActs event (readFrame handler info frame world).acts
      (readFrame handler info frame world).goesOn := by
  unfold readFrame
  rcases handler.onRead info frame world.app with ⟨accepted, app⟩
  cases accepted with
  | true => exact .accepted event frame brings
  | false => exact .refused event frame brings

/-- Every event is dealt with in one of these ways. -/
theorem turnActs_step {σ : Type} (handler : Handler σ) (info : SessionInfo)
    (event : SessionEvent) (world : World σ) :
    TurnActs event (event.step handler info world).acts
      (event.step handler info world).goesOn := by
  cases event with
  | text value => exact turnActs_readFrame handler info rfl world
  | binary content => exact turnActs_readFrame handler info rfl world
  | ping => exact .ignored .ping (Or.inl rfl)
  | pong => exact .ignored .pong (Or.inr rfl)
  | peerClosed => exact .gone .peerClosed (Or.inl rfl)
  | receiveFailed => exact .gone .receiveFailed (Or.inr (Or.inl rfl))
  | streamEnded => exact .gone .streamEnded (Or.inr (Or.inr rfl))
  | stopped => exact .stopped
  | tick sendable =>
      cases polled : (handler.onWrite info world.app).1 with
      | none =>
          simp only [SessionEvent.step, pollFrame, polled]
          exact .silent sendable
      | some frame =>
          simp only [SessionEvent.step, pollFrame, polled]
          exact .handed frame sendable

/-! ### The whole life -/

/-- The life of a session that is open. -/
inductive Running : List Happening → Prop where
  | opened : Running [.did .opened]
  | goesOn {life : List Happening} {event : SessionEvent} {acts : List SessionAct}
      (before : Running life) (turn : TurnActs event acts true) :
      Running (life ++ turnOf event acts)

/-- The life of a session that an event has ended. -/
inductive Left : List Happening → Prop where
  | stops {life : List Happening} {event : SessionEvent} {acts : List SessionAct}
      (before : Running life) (turn : TurnActs event acts false) :
      Left (life ++ turnOf event acts)

/-- The lives that are possible up to some phase. -/
def Course : Phase → List Happening → Prop
  | .accepted, life => life = []
  | .registered, life => life = []
  | .running, life => Running life
  | .leaving, life => Left life
  | .removed, life => Left life
  | .ended, life => ∃ left, Left left ∧ life = left ++ [.did .closed]

/-- Every move continues the course of a session. -/
theorem course_moves {σ : Type} {handler : Handler σ} {info : SessionInfo} {phase next : Phase}
    {world after : World σ} {happened life : List Happening}
    (moves : Moves handler info phase world next after happened) (course : Course phase life) :
    Course next (life ++ happened) := by
  cases moves with
  | register => simpa [Course] using course
  | announce =>
      have unopened : life = [] := course
      subst unopened
      exact Running.opened
  | goesOn event world continues =>
      have turn := turnActs_step handler info event world
      rw [continues] at turn
      exact Running.goesOn course turn
  | stops event world ends =>
      have turn := turnActs_step handler info event world
      rw [ends] at turn
      exact Left.stops course turn
  | unregister =>
      rw [List.append_nil]
      exact course
  | farewell => exact ⟨life, course, rfl⟩

/-! ### Events, acts and calls of a life -/

def Happening.act? : Happening → Option SessionAct
  | .did act => some act
  | .took _ => none

def Happening.event? : Happening → Option SessionEvent
  | .took event => some event
  | .did _ => none

/-- What a session has done, in order. -/
def actsOf (life : List Happening) : List SessionAct := life.filterMap Happening.act?

/-- The events that a session has taken, in order. -/
def eventsOf (life : List Happening) : List SessionEvent := life.filterMap Happening.event?

/-- The calls of the handler, in order. -/
def callsOf (life : List Happening) : List SessionAct := (actsOf life).filter SessionAct.isCall

@[simp] theorem actsOf_append (life more : List Happening) :
    actsOf (life ++ more) = actsOf life ++ actsOf more := by
  simp [actsOf]

@[simp] theorem actsOf_turnOf (event : SessionEvent) (acts : List SessionAct) :
    actsOf (turnOf event acts) = acts := by
  have acted : Happening.act? ∘ Happening.did = some := rfl
  rw [actsOf, turnOf, List.filterMap_cons_none rfl, List.filterMap_map, acted, List.filterMap_some]

@[simp] theorem actsOf_did (act : SessionAct) : actsOf [.did act] = [act] := rfl

@[simp] theorem eventsOf_append (life more : List Happening) :
    eventsOf (life ++ more) = eventsOf life ++ eventsOf more := by
  simp [eventsOf]

@[simp] theorem eventsOf_turnOf (event : SessionEvent) (acts : List SessionAct) :
    eventsOf (turnOf event acts) = [event] := by
  have taken : Happening.event? (.took event) = some event := rfl
  have eventless : Happening.event? ∘ Happening.did = fun _ => none := rfl
  rw [eventsOf, turnOf, List.filterMap_cons_some taken, List.filterMap_map, eventless]
  simp

@[simp] theorem eventsOf_did (act : SessionAct) : eventsOf [.did act] = [] := rfl

@[simp] theorem callsOf_append (life more : List Happening) :
    callsOf (life ++ more) = callsOf life ++ callsOf more := by
  simp [callsOf]

/-- The last call of a session that has ended. -/
def Phase.closing (phase : Phase) : List SessionAct :=
  if phase = .ended then [.closed] else []

/-- The laws of a life that has begun. -/
structure LifeCycle (phase : Phase) (life : List Happening) : Prop where
  /-- The handler is told of the opening, then exchanges frames, then is told of
  the closing if the session has ended. -/
  calls : ∃ exchanges, callsOf life = .opened :: (exchanges ++ phase.closing) ∧
    ∀ call ∈ exchanges, call.isExchange = true
  /-- The handler has read the frames that came in, each once and in order. -/
  reads : (actsOf life).filterMap SessionAct.readFrame? =
    (eventsOf life).filterMap SessionEvent.frame?
  /-- After a refusal there is a close frame, and no call but the closing. -/
  refusal : ∀ frame, .read frame false ∈ actsOf life → ∃ before,
    actsOf life = before ++ .read frame false :: .sentClose :: phase.closing
  /-- The socket has got the frames that the handler has handed out, each once
  and in order. -/
  sends : (actsOf life).filterMap SessionAct.sentFrame? =
    (actsOf life).filterMap SessionAct.polledFrame?
  /-- A close frame is sent once and last, after a refusal or at a stop. -/
  closeFrame : .sentClose ∈ actsOf life → ∃ before,
    actsOf life = before ++ .sentClose :: phase.closing ∧ .sentClose ∉ before ∧
      ((∃ frame, before.getLast? = some (.read frame false)) ∨
        (eventsOf life).getLast? = some .stopped)

section Laws

variable {event : SessionEvent} {acts : List SessionAct} {goesOn : Bool}

theorem TurnActs.reads (turn : TurnActs event acts goesOn) :
    acts.filterMap SessionAct.readFrame? = [event].filterMap SessionEvent.frame? := by
  cases turn with
  | accepted _ frame brings => simp [SessionAct.readFrame?, brings]
  | refused _ frame brings => simp [SessionAct.readFrame?, brings]
  | ignored _ control => rcases control with rfl | rfl <;> rfl
  | gone _ lost => rcases lost with rfl | rfl | rfl <;> rfl
  | silent sendable => rfl
  | handed frame => rfl
  | stopped => rfl

theorem TurnActs.sends (turn : TurnActs event acts goesOn) :
    acts.filterMap SessionAct.sentFrame? = acts.filterMap SessionAct.polledFrame? := by
  cases turn <;> rfl

theorem TurnActs.calls (turn : TurnActs event acts goesOn) :
    ∀ call ∈ acts.filter SessionAct.isCall, call.isExchange = true := by
  cases turn <;> simp [SessionAct.isCall, SessionAct.isExchange]

/-- What a session goes on after is neither a refusal nor a close frame. -/
theorem TurnActs.of_goesOn (turn : TurnActs event acts true) :
    (∀ frame, .read frame false ∉ acts) ∧ .sentClose ∉ acts := by
  cases turn <;> simp

/-- A refusal is answered by a close frame, and that is all. -/
theorem TurnActs.refusal (turn : TurnActs event acts goesOn) {frame : Frame}
    (refused : .read frame false ∈ acts) : acts = [.read frame false, .sentClose] := by
  cases turn <;> simp at refused ⊢
  exact refused.symm

/-- A close frame comes last, after a refusal or at a stop. -/
theorem TurnActs.closeFrame (turn : TurnActs event acts goesOn) (closes : .sentClose ∈ acts) :
    (∃ frame, acts = [.read frame false, .sentClose]) ∨
      (event = .stopped ∧ acts = [.sentClose]) := by
  cases turn with
  | refused _ frame brings => exact Or.inl ⟨frame, rfl⟩
  | stopped => exact Or.inr ⟨rfl, rfl⟩
  | accepted _ frame brings => simp at closes
  | ignored _ control => simp at closes
  | gone _ lost => simp at closes
  | silent sendable => simp at closes
  | handed frame => simp at closes

end Laws

/-- What holds of a session as long as it is open. -/
structure OpenLife (life : List Happening) : Prop where
  calls : ∃ exchanges, callsOf life = .opened :: exchanges ∧
    ∀ call ∈ exchanges, call.isExchange = true
  reads : (actsOf life).filterMap SessionAct.readFrame? =
    (eventsOf life).filterMap SessionEvent.frame?
  sends : (actsOf life).filterMap SessionAct.sentFrame? =
    (actsOf life).filterMap SessionAct.polledFrame?
  noRefusal : ∀ frame, .read frame false ∉ actsOf life
  noClose : .sentClose ∉ actsOf life

theorem Running.openLife {life : List Happening} (running : Running life) : OpenLife life := by
  induction running with
  | opened =>
      exact {
        calls := ⟨[], rfl, by simp⟩
        reads := rfl
        sends := rfl
        noRefusal := by simp
        noClose := by simp }
  | @goesOn life event acts before turn earlier =>
      -- Only a turn that goes on extends an open life, and such a turn refuses nothing.
      obtain ⟨exchanges, calls, exchange⟩ := earlier.calls
      obtain ⟨noRefusal, noClose⟩ := turn.of_goesOn
      refine {
        calls := ⟨exchanges ++ acts.filter SessionAct.isCall, ?_, ?_⟩
        reads := ?_
        sends := ?_
        noRefusal := ?_
        noClose := ?_ }
      · rw [callsOf_append, calls, callsOf, actsOf_turnOf, List.cons_append]
      · intro call member
        exact (List.mem_append.1 member).elim (exchange call) (turn.calls call)
      · rw [actsOf_append, actsOf_turnOf, eventsOf_append, eventsOf_turnOf, List.filterMap_append,
          List.filterMap_append, earlier.reads, turn.reads]
      · rw [actsOf_append, actsOf_turnOf, List.filterMap_append, List.filterMap_append,
          earlier.sends, turn.sends]
      · intro frame member
        rw [actsOf_append, actsOf_turnOf] at member
        exact (List.mem_append.1 member).elim (earlier.noRefusal frame) (noRefusal frame)
      · intro member
        rw [actsOf_append, actsOf_turnOf] at member
        exact (List.mem_append.1 member).elim earlier.noClose noClose

/-- A session that is open obeys the laws. -/
theorem OpenLife.lifeCycle {life : List Happening} (openLife : OpenLife life) :
    LifeCycle .running life := by
  obtain ⟨exchanges, calls, exchange⟩ := openLife.calls
  exact {
    calls := ⟨exchanges, by simpa [Phase.closing] using calls, exchange⟩
    reads := openLife.reads
    refusal := fun frame member => absurd member (openLife.noRefusal frame)
    sends := openLife.sends
    closeFrame := fun member => absurd member openLife.noClose }

theorem actsOf_closing (phase : Phase) : actsOf (phase.closing.map .did) = phase.closing := by
  unfold Phase.closing
  split <;> rfl

theorem eventsOf_closing (phase : Phase) : eventsOf (phase.closing.map .did) = [] := by
  unfold Phase.closing
  split <;> rfl

theorem not_mem_closing {phase : Phase} {act : SessionAct} (other : act ≠ .closed) :
    act ∉ phase.closing := by
  unfold Phase.closing
  split <;> simp [other]

/-- A session that an event has ended obeys the laws, before its closing as well
as after it. -/
theorem OpenLife.lifeCycle_of_stops {life : List Happening} {event : SessionEvent}
    {acts : List SessionAct} (openLife : OpenLife life) (turn : TurnActs event acts false)
    (phase : Phase) :
    LifeCycle phase (life ++ (turnOf event acts ++ phase.closing.map .did)) := by
  obtain ⟨exchanges, calls, exchange⟩ := openLife.calls
  have allActs : actsOf (life ++ (turnOf event acts ++ phase.closing.map .did)) =
      actsOf life ++ (acts ++ phase.closing) := by
    rw [actsOf_append, actsOf_append, actsOf_turnOf, actsOf_closing]
  have allEvents : eventsOf (life ++ (turnOf event acts ++ phase.closing.map .did)) =
      eventsOf life ++ [event] := by
    rw [eventsOf_append, eventsOf_append, eventsOf_turnOf, eventsOf_closing, List.append_nil]
  have closingReads : phase.closing.filterMap SessionAct.readFrame? = [] := by
    unfold Phase.closing
    split <;> rfl
  have closingSends : phase.closing.filterMap SessionAct.sentFrame? =
      phase.closing.filterMap SessionAct.polledFrame? := by
    unfold Phase.closing
    split <;> rfl
  have closingCalls : phase.closing.filter SessionAct.isCall = phase.closing := by
    unfold Phase.closing
    split <;> rfl
  refine {
    calls := ⟨exchanges ++ acts.filter SessionAct.isCall, ?_, ?_⟩
    reads := ?_
    refusal := ?_
    sends := ?_
    closeFrame := ?_ }
  · have earlier : (actsOf life).filter SessionAct.isCall = .opened :: exchanges := calls
    rw [callsOf, allActs, List.filter_append, List.filter_append, earlier, closingCalls]
    simp
  · intro call member
    exact (List.mem_append.1 member).elim (exchange call) (turn.calls call)
  · rw [allActs, allEvents, List.filterMap_append, List.filterMap_append, List.filterMap_append,
      openLife.reads, turn.reads, closingReads, List.append_nil]
  · intro frame member
    rw [allActs] at member ⊢
    rcases List.mem_append.1 member with earlier | late
    · exact absurd earlier (openLife.noRefusal frame)
    · rcases List.mem_append.1 late with here | closing
      · exact ⟨actsOf life, by simp [turn.refusal here]⟩
      · exact absurd closing (not_mem_closing (by simp))
  · rw [allActs, List.filterMap_append, List.filterMap_append, List.filterMap_append,
      List.filterMap_append, openLife.sends, turn.sends, closingSends]
  · intro member
    rw [allActs] at member ⊢
    rw [allEvents]
    rcases List.mem_append.1 member with earlier | late
    · exact absurd earlier openLife.noClose
    · rcases List.mem_append.1 late with here | closing
      · rcases turn.closeFrame here with ⟨frame, same⟩ | ⟨stopped, same⟩
        · refine ⟨actsOf life ++ [.read frame false], by simp [same], ?_, Or.inl ⟨frame, by simp⟩⟩
          simp [openLife.noClose]
        · exact ⟨actsOf life, by simp [same], openLife.noClose, Or.inr (by simp [stopped])⟩
      · exact absurd closing (not_mem_closing (by simp))

/-- A session that has not told its handler of the opening has done nothing. -/
def Phase.begun : Phase → Bool
  | .accepted | .registered => false
  | _ => true

/-- Every possible life obeys the laws. -/
theorem Course.lifeCycle {phase : Phase} {life : List Happening} (course : Course phase life)
    (begun : phase.begun = true) : LifeCycle phase life := by
  cases phase with
  | accepted => cases begun
  | registered => cases begun
  | running => exact (Running.openLife course).lifeCycle
  | leaving =>
      obtain ⟨before, turn⟩ := course
      simpa [Phase.closing] using before.openLife.lifeCycle_of_stops turn .leaving
  | removed =>
      obtain ⟨before, turn⟩ := course
      simpa [Phase.closing] using before.openLife.lifeCycle_of_stops turn .removed
  | ended =>
      obtain ⟨left, ⟨before, turn⟩, rfl⟩ := course
      simpa [Phase.closing] using before.openLife.lifeCycle_of_stops turn .ended

/-- Nothing has happened to a session that is not yet open. -/
theorem Course.eq_nil {phase : Phase} {life : List Happening} (course : Course phase life)
    (unopened : phase.begun = false) : life = [] := by
  cases phase with
  | accepted => exact course
  | registered => exact course
  | running => cases unopened
  | leaving => cases unopened
  | removed => cases unopened
  | ended => cases unopened

/-- Only a session that has ended has called its handler for the closing. -/
theorem Course.ended_of_closed {phase : Phase} {life : List Happening}
    (course : Course phase life) (closed : .closed ∈ actsOf life) : phase = .ended := by
  cases begun : phase.begun with
  | false =>
      have unborn : life = [] := course.eq_nil begun
      simp [unborn, actsOf] at closed
  | true =>
      obtain ⟨exchanges, calls, exchange⟩ := (course.lifeCycle begun).calls
      have called : .closed ∈ callsOf life := List.mem_filter.2 ⟨closed, rfl⟩
      rw [calls] at called
      -- Neither the opening nor an exchange, so it stands in the closing part.
      rcases List.mem_cons.1 called with opening | called
      · cases opening
      · rcases List.mem_append.1 called with among | closing
        · exact absurd (exchange _ among) (by decide)
        · by_cases ended : phase = .ended
          · exact ended
          · simp [Phase.closing, ended] at closing

end WebHost
