/-
Module: WebHost.Proofs.Session.Client
Purpose: What a client sends and receives in a session, and how that is linked to
  the server.
Main exports:
  ClientAct.sentFrame?, ClientAct.deliveredFrame?, StreamEvent.frame?, takeStream_received,
  runClientSession_sent, runClientSession_received, Linked
-/
import WebHost.Client.Session
import WebHost.Proofs.Session.Course

namespace WebHost

/-!
A client sends no frame but its greeting, and it hands its callback no more than
what comes from its connection.  The connection keeps the order: at any moment,
what one end has got is the first part of what the other end has sent.
-/

/-- The frame that a client sends. -/
def ClientAct.sentFrame? : ClientAct → Option Frame
  | .greeted text => some (.text text)
  | _ => none

/-- The frame that is handed to the callback. -/
def ClientAct.deliveredFrame? : ClientAct → Option Frame
  | .delivered frame _ => some frame
  | _ => none

/-- The frame that comes from the connection. -/
def StreamEvent.frame? : StreamEvent → Option Frame
  | .frame carried => some carried
  | _ => none

section Run

variable {τ : Type} (onMessage : Frame → τ → Bool × τ) (protocol : Option String)

/-- After its greeting a client sends no frame. -/
theorem takeStream_sent (received : Nat) (reason : Option String) (events : List StreamEvent)
    (state : τ) :
    (takeStream onMessage protocol received reason events state).1.filterMap
      ClientAct.sentFrame? = [] := by
  induction events generalizing received reason state with
  | nil => rfl
  | cons event rest ih =>
      cases event with
      | frame frame =>
          rcases handed : onMessage frame state with ⟨_ | _, state⟩
          · simp [takeStream, handed, ClientAct.sentFrame?]
          · simp only [takeStream, handed, if_true]
            exact ih (received + 1) reason state
      | control => exact ih received reason state
      | close given => exact ih received (some (given.getD "")) state
      | failed => cases reason <;> rfl
      | disconnected => rfl
      | ended => rfl
      | idle => rfl

/-- The frames that a client has handed on came from its connection, in order,
and it reports how many there were. -/
theorem takeStream_received (received : Nat) (reason : Option String)
    (events : List StreamEvent) (state : τ) :
    (takeStream onMessage protocol received reason events state).1.filterMap
        ClientAct.deliveredFrame? <+: events.filterMap StreamEvent.frame? ∧
      ∀ summary, (takeStream onMessage protocol received reason events state).2.1 =
          .finished summary →
        summary.framesReceived = received +
          ((takeStream onMessage protocol received reason events state).1.filterMap
            ClientAct.deliveredFrame?).length := by
  induction events generalizing received reason state with
  | nil => exact ⟨List.nil_prefix, nofun⟩
  | cons event rest ih =>
      cases event with
      | frame frame =>
          rcases handed : onMessage frame state with ⟨_ | _, state⟩
          · simp [takeStream, handed, List.filterMap_cons, StreamEvent.frame?,
              ClientAct.deliveredFrame?]
          · obtain ⟨came, told⟩ := ih (received + 1) reason state
            simp only [takeStream, handed, if_true]
            rw [List.filterMap_cons_some (f := ClientAct.deliveredFrame?) rfl,
              List.filterMap_cons_some (f := StreamEvent.frame?) rfl, List.length_cons]
            refine ⟨List.cons_prefix_cons.2 ⟨rfl, came⟩, fun summary finished => ?_⟩
            rw [told summary finished]
            omega
      | control => exact ih received reason state
      | close given => exact ih received (some (given.getD "")) state
      | failed =>
          cases reason with
          | none => exact ⟨List.nil_prefix, nofun⟩
          | some reason => simp [takeStream]
      | disconnected => simp [takeStream]
      | ended => simp [takeStream]
      | idle => simp [takeStream, List.filterMap_cons, ClientAct.deliveredFrame?]

/-- A client sends its greeting at most. -/
theorem runClientSession_sent (greeting : String) (greetingSent : Bool)
    (events : List StreamEvent) (state : τ) :
    (runClientSession onMessage protocol greeting greetingSent events state).1.filterMap
      ClientAct.sentFrame? = if greetingSent then [.text greeting] else [] := by
  unfold runClientSession
  cases greetingSent with
  | true =>
      simp only [if_true]
      rw [List.filterMap_cons_some (f := ClientAct.sentFrame?) rfl, takeStream_sent]
  | false => rfl

theorem runClientSession_received (greeting : String) (greetingSent : Bool)
    (events : List StreamEvent) (state : τ) :
    (runClientSession onMessage protocol greeting greetingSent events state).1.filterMap
        ClientAct.deliveredFrame? <+: events.filterMap StreamEvent.frame? ∧
      ∀ summary,
        (runClientSession onMessage protocol greeting greetingSent events state).2.1 =
          .finished summary →
        summary.framesReceived =
          ((runClientSession onMessage protocol greeting greetingSent events state).1.filterMap
            ClientAct.deliveredFrame?).length := by
  unfold runClientSession
  cases greetingSent with
  | true =>
      obtain ⟨came, told⟩ := takeStream_received onMessage protocol 0 none events state
      refine ⟨came, fun summary finished => ?_⟩
      rw [told summary finished, Nat.zero_add]
      rfl
  | false => exact ⟨List.nil_prefix, nofun⟩

end Run

/-- A session of the server and one of a client are the ends of one connection,
each of which has got the first part of what the other has sent. -/
structure Linked (life : List Happening) (acts : List ClientAct) (stream : List StreamEvent) :
    Prop where
  toServer : (eventsOf life).filterMap SessionEvent.frame? <+:
    acts.filterMap ClientAct.sentFrame?
  toClient : stream.filterMap StreamEvent.frame? <+:
    (actsOf life).filterMap SessionAct.sentFrame?

end WebHost
