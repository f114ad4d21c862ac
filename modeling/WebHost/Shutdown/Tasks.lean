/-
Module: WebHost.Shutdown.Tasks
Purpose: The tasks that hold receivers and waits of one shutdown.
Main exports:
  Tasks, TaskStep, TaskOutcome, Tasks.step
-/
import WebHost.Shutdown.Signal

namespace WebHost

/-!
Receivers and waits are numbered in the order in which they were made, and
keep their numbers when they are dropped or over.  A wait does nothing before
it is polled for the first time: then it begins.  A dropped wait is over.
-/

/-- A wait as its task sees it. -/
inductive TaskWait where
  | idle
  | running (state : Shutdown.WaitState)
  | dropped
deriving Repr, Inhabited, DecidableEq

/-- A shutdown with the receivers and waits of its tasks, in order of their
numbers.  A dropped receiver has no subscription. -/
structure Tasks where
  shutdown : Shutdown
  receivers : List (Option ReceiverId)
  waits : List TaskWait
deriving Repr, Inhabited, DecidableEq

/-- What a task does with a shutdown. -/
inductive TaskStep where
  | subscribe
  | trigger
  | isTriggered
  | count
  | makeWait
  | beginWait
  | pollWait (wait : Nat)
  | receive (receiver : Nat)
  | dropReceiver (receiver : Nat)
  | dropWait (wait : Nat)
deriving Repr, Inhabited, DecidableEq

/-- What a task gets for a step. -/
inductive TaskOutcome where
  | nothing
  | flag (value : Bool)
  | number (value : Nat)
  | ready
  | pending
  | over
  | received (what : Received)
  | unknownReceiver
  | unknownWait
deriving Repr, Inhabited, DecidableEq

namespace Tasks

def initial : Tasks :=
  { shutdown := .initial
    receivers := []
    waits := [] }

/-- Whether a wait is over. -/
def waitOutcome : Shutdown.WaitState → TaskOutcome
  | .finished => .ready
  | .pending _ => .pending

/-- Poll a wait: what its task gets, and what becomes of the wait. -/
def pollHeld (shutdown : Shutdown) : TaskWait → TaskOutcome × TaskWait × Shutdown
  | .idle =>
      let (state, shutdown) := shutdown.beginWait
      (waitOutcome state, .running state, shutdown)
  | .running .finished => (.over, .running .finished, shutdown)
  | .running (.pending receiver) =>
      let (state, shutdown) := shutdown.pollWait (.pending receiver)
      (waitOutcome state, .running state, shutdown)
  | .dropped => (.over, .dropped, shutdown)

/-- End the subscription that a wait holds. -/
def releaseWait (shutdown : Shutdown) : TaskWait → Shutdown
  | .running (.pending receiver) => shutdown.release receiver
  | _ => shutdown

/-- One step of a task. -/
def step (tasks : Tasks) : TaskStep → TaskOutcome × Tasks
  | .subscribe =>
      let (receiver, shutdown) := tasks.shutdown.subscribe
      (.number tasks.receivers.length,
        { tasks with shutdown := shutdown, receivers := tasks.receivers ++ [some receiver] })
  | .trigger => (.nothing, { tasks with shutdown := tasks.shutdown.trigger })
  | .isTriggered => (.flag tasks.shutdown.isTriggered, tasks)
  | .count => (.number tasks.shutdown.receiverCount, tasks)
  | .makeWait =>
      (.number tasks.waits.length, { tasks with waits := tasks.waits ++ [.idle] })
  | .beginWait =>
      let (outcome, held, shutdown) := pollHeld tasks.shutdown .idle
      (outcome, { tasks with shutdown := shutdown, waits := tasks.waits ++ [held] })
  | .pollWait wait =>
      match tasks.waits[wait]? with
      | some held =>
          let (outcome, held, shutdown) := pollHeld tasks.shutdown held
          (outcome, { tasks with shutdown := shutdown, waits := tasks.waits.set wait held })
      | none => (.unknownWait, tasks)
  | .receive receiver =>
      match tasks.receivers[receiver]? with
      | some (some subscription) =>
          let (what, shutdown) := tasks.shutdown.receive subscription
          (.received what, { tasks with shutdown := shutdown })
      | _ => (.unknownReceiver, tasks)
  | .dropReceiver receiver =>
      match tasks.receivers[receiver]? with
      | some (some subscription) =>
          (.nothing,
            { tasks with
              shutdown := tasks.shutdown.release subscription
              receivers := tasks.receivers.set receiver none })
      | some none => (.nothing, tasks)
      | none => (.unknownReceiver, tasks)
  | .dropWait wait =>
      match tasks.waits[wait]? with
      | some held =>
          (.nothing,
            { tasks with
              shutdown := releaseWait tasks.shutdown held
              waits := tasks.waits.set wait .dropped })
      | none => (.unknownWait, tasks)

end Tasks

end WebHost
