/-
Module: WebHost.Client.Session
Purpose: The client's side of a session.
Main exports:
  StreamEvent, ClientAct, SessionSummary, SessionResult, runClientSession
-/
import WebHost.Session.Basic

namespace WebHost

/-!
The client sends one greeting and then hands every frame to its callback, until
the callback refuses one, the peer is gone, or nothing comes for a while.  An
error ends the session with an error, unless the peer had announced its end.
-/

/-- What a client sees of its connection. -/
inductive StreamEvent where
  | frame (frame : Frame)
  | control
  | close (reason : Option String)
  | disconnected
  | failed
  | ended
  | idle
deriving Repr, Inhabited, DecidableEq

/-- What a client does. -/
inductive ClientAct where
  | greeted (text : String)
  | delivered (frame : Frame) (accepted : Bool)
  | sentClose
deriving Repr, Inhabited, DecidableEq

/-- What happened in a session. -/
structure SessionSummary where
  protocol : Option String
  framesReceived : Nat
  closeReason : Option String
deriving Repr, Inhabited, DecidableEq

/-- How a session stands after some events. -/
inductive SessionResult where
  | running
  | finished (summary : SessionSummary)
  | failed
deriving Repr, Inhabited, DecidableEq

/-- The reason that is reported when the client gave up. -/
def idleReason : String := "idle timeout"

variable {τ : Type}

/-- Take events until one ends the session.  The callback has a state. -/
def takeStream (onMessage : Frame → τ → Bool × τ) (protocol : Option String) :
    Nat → Option String → List StreamEvent → τ → List ClientAct × SessionResult × τ
  | _, _, [], state => ([], .running, state)
  | received, reason, event :: rest, state =>
      match event with
      | .frame frame =>
          let (accepted, state) := onMessage frame state
          if accepted then
            let (acts, result, state) :=
              takeStream onMessage protocol (received + 1) reason rest state
            (.delivered frame true :: acts, result, state)
          else
            ([.delivered frame false, .sentClose],
              .finished
                { protocol := protocol
                  framesReceived := received + 1
                  closeReason := reason },
              state)
      | .control => takeStream onMessage protocol received reason rest state
      | .close given =>
          takeStream onMessage protocol received (some (given.getD "")) rest state
      | .disconnected | .ended =>
          ([],
            .finished
              { protocol := protocol
                framesReceived := received
                closeReason := reason },
            state)
      | .failed =>
          match reason with
          | none => ([], .failed, state)
          | some _ =>
              ([],
                .finished
                  { protocol := protocol
                    framesReceived := received
                    closeReason := reason },
                state)
      | .idle =>
          ([.sentClose],
            .finished
              { protocol := protocol
                framesReceived := received
                closeReason := some idleReason },
            state)

/-- The session of a client over some events.  `greetingSent` tells whether the
greeting gets out. -/
def runClientSession (onMessage : Frame → τ → Bool × τ) (protocol : Option String)
    (greeting : String) (greetingSent : Bool) (events : List StreamEvent) (state : τ) :
    List ClientAct × SessionResult × τ :=
  if greetingSent then
    let (acts, result, state) := takeStream onMessage protocol 0 none events state
    (.greeted greeting :: acts, result, state)
  else
    ([], .failed, state)

end WebHost
