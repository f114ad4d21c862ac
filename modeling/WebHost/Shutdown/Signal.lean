/-
Module: WebHost.Shutdown.Signal
Purpose: The signal that stops the server and everything that waits for it.
Main exports:
  Shutdown, Shutdown.raise, Shutdown.broadcast, Shutdown.trigger, Shutdown.subscribe,
  Shutdown.receive, Shutdown.release, Shutdown.checkFlag, Shutdown.beginWait,
  Shutdown.pollWait
-/

namespace WebHost

/-!
A shutdown has a flag and a broadcast channel that keeps the last message only.
To trigger it is to raise the flag and then to broadcast, two steps that other
tasks may come between.  To wait is to subscribe, to look at the flag, and if
it is down to receive.  A receiver that missed messages is told how many once,
and gets the last message after that.  A message that nobody has subscribed
for is not kept.
-/

/-- The name of a subscription. -/
abbrev ReceiverId := Nat

/-- What a receiver gets when it looks for a message. -/
inductive Received where
  | signal
  | empty
  | lagged (missed : Nat)
  | closed
deriving Repr, Inhabited, DecidableEq

/-- The flag, the number of messages broadcast, and for each subscription the
number of messages it is done with. -/
structure Shutdown where
  raised : Bool
  sent : Nat
  receivers : List (ReceiverId × Nat)
  nextReceiver : ReceiverId
deriving Repr, DecidableEq

namespace Shutdown

def initial : Shutdown :=
  { raised := false
    sent := 0
    receivers := []
    nextReceiver := 0 }

instance : Inhabited Shutdown := ⟨initial⟩

/-- The flag is up. -/
def isTriggered (shutdown : Shutdown) : Bool := shutdown.raised

/-- The number of subscriptions. -/
def receiverCount (shutdown : Shutdown) : Nat := shutdown.receivers.length

/-- The first step of a trigger: the flag goes up. -/
def raise (shutdown : Shutdown) : Shutdown :=
  { shutdown with raised := true }

/-- The second step of a trigger: a message to all subscriptions. -/
def broadcast (shutdown : Shutdown) : Shutdown :=
  if shutdown.receivers = [] then shutdown else { shutdown with sent := shutdown.sent + 1 }

/-- Stop everything that waits. -/
def trigger (shutdown : Shutdown) : Shutdown :=
  shutdown.raise.broadcast

/-- A new subscription, to the messages from now on. -/
def subscribe (shutdown : Shutdown) : ReceiverId × Shutdown :=
  (shutdown.nextReceiver,
    { shutdown with
      receivers := shutdown.receivers ++ [(shutdown.nextReceiver, shutdown.sent)]
      nextReceiver := shutdown.nextReceiver + 1 })

/-- End a subscription. -/
def release (shutdown : Shutdown) (receiver : ReceiverId) : Shutdown :=
  { shutdown with receivers := shutdown.receivers.filter (·.1 ≠ receiver) }

/-- Note how many messages a subscription is done with. -/
def advance (shutdown : Shutdown) (receiver : ReceiverId) (done : Nat) : Shutdown :=
  { shutdown with
    receivers := shutdown.receivers.map fun entry =>
      if entry.1 = receiver then (receiver, done) else entry }

/-- What a subscription finds in the channel. -/
def receive (shutdown : Shutdown) (receiver : ReceiverId) : Received × Shutdown :=
  match shutdown.receivers.lookup receiver with
  | none => (.closed, shutdown)
  | some done =>
      if shutdown.sent ≤ done then (.empty, shutdown)
      else if shutdown.sent = done + 1 then (.signal, shutdown.advance receiver shutdown.sent)
      else (.lagged (shutdown.sent - 1 - done), shutdown.advance receiver (shutdown.sent - 1))

/-- A wait that has begun: it is over, or it holds a subscription. -/
inductive WaitState where
  | finished
  | pending (receiver : ReceiverId)
deriving Repr, Inhabited, DecidableEq

/-- The second step of a wait: look at the flag.  If it is up the wait is over
and its subscription ended. -/
def checkFlag (shutdown : Shutdown) (receiver : ReceiverId) : WaitState × Shutdown :=
  if shutdown.isTriggered then (.finished, shutdown.release receiver)
  else (.pending receiver, shutdown)

/-- Begin a wait: subscribe, then look at the flag. -/
def beginWait (shutdown : Shutdown) : WaitState × Shutdown :=
  let (receiver, subscribed) := shutdown.subscribe
  subscribed.checkFlag receiver

/-- Continue a wait: whatever its subscription receives ends it. -/
def pollWait (shutdown : Shutdown) : WaitState → WaitState × Shutdown
  | .finished => (.finished, shutdown)
  | .pending receiver =>
      match shutdown.receive receiver with
      | (.empty, unchanged) => (.pending receiver, unchanged)
      | (_, received) => (.finished, received.release receiver)

end Shutdown

end WebHost
