/-
Module: WebHost.Proofs.Shutdown.Interleaving
Purpose: Shutdowns as their tasks share them, one atomic step after another.
Main exports:
  TriggerPhase, WaitPhase, AtomicTasks, AtomicTasks.Step, AtomicTasks.Reachable,
  AtomicTasks.ReadyAtNextPoll, AtomicGroup, AtomicGroup.Step, AtomicGroup.Leads
-/
import Mathlib.Logic.Function.Basic
import WebHost.Shutdown.Signal

namespace WebHost

/-!
Between two atomic steps of one task any other task may make its own.  A call of
trigger has two of them, raising the flag and broadcasting.  A wait subscribes
and looks at the flag, both in its first poll; from then on it receives, at the
end of that poll and once in every later one.

There are as many calls, waits and receivers as wanted: each number stands for
one of them, which has not begun at first.  A wait borrows its handle, so the
channel stays open as long as anything waits.
-/

/-- How far a call of trigger has come. -/
inductive TriggerPhase where
  | notBegun
  | raised
  | completed
deriving Repr, DecidableEq

/-- How far a wait has come. -/
inductive WaitPhase where
  | idle
  | subscribed (receiver : ReceiverId)
  | held (state : Shutdown.WaitState)
  | dropped
deriving Repr, DecidableEq

namespace WaitPhase

/-- The subscription that a wait holds. -/
def subscription? : WaitPhase → Option ReceiverId
  | .subscribed receiver => some receiver
  | .held (.pending receiver) => some receiver
  | _ => none

/-- The wait has been neither answered nor dropped. -/
def IsAlive : WaitPhase → Prop
  | .idle | .subscribed _ | .held (.pending _) => True
  | _ => False

end WaitPhase

/-- What the task of a wait knows after a step: the poll goes on, or it has
ended with an answer. -/
inductive PollAnswer where
  | goesOn
  | pending
  | ready
deriving Repr, DecidableEq

/-- The answer that the state of a wait gives, if it is not yet `ready`. -/
def answerOf (unfinished : PollAnswer) : Shutdown.WaitState → PollAnswer
  | .finished => .ready
  | .pending _ => unfinished

/-- An atomic step, with the number of the call, the receiver or the wait that
makes it. -/
inductive AtomicAct where
  | raise (call : Nat)
  | broadcast (call : Nat)
  | subscribe (receiver : Nat)
  | receive (receiver : Nat)
  | dropReceiver (receiver : Nat)
  | advance (wait : Nat) (answer : PollAnswer)
  | dropWait (wait : Nat)
deriving Repr, DecidableEq

/-- The step is one of this wait. -/
def AtomicAct.IsOf (wait : Nat) : AtomicAct → Prop
  | .advance other _ | .dropWait other => other = wait
  | _ => False

/-- A shutdown and everything that uses it, between two atomic steps. -/
structure AtomicTasks where
  shutdown : Shutdown
  calls : Nat → TriggerPhase
  waits : Nat → WaitPhase
  receivers : Nat → Option ReceiverId

namespace AtomicTasks

/-- A new shutdown. -/
def initial : AtomicTasks :=
  { shutdown := .initial
    calls := fun _ => .notBegun
    waits := fun _ => .idle
    receivers := fun _ => none }

/-- Some call of trigger has begun. -/
def Begun (tasks : AtomicTasks) : Prop := ∃ call, tasks.calls call ≠ .notBegun

/-- Some call of trigger has completed. -/
def Completed (tasks : AtomicTasks) : Prop := ∃ call, tasks.calls call = .completed

/-- Put a call at some point. -/
def setCall (tasks : AtomicTasks) (call : Nat) (phase : TriggerPhase) (shutdown : Shutdown) :
    AtomicTasks :=
  { tasks with shutdown := shutdown, calls := Function.update tasks.calls call phase }

/-- Put a wait at some point. -/
def setWait (tasks : AtomicTasks) (wait : Nat) (phase : WaitPhase) (shutdown : Shutdown) :
    AtomicTasks :=
  { tasks with shutdown := shutdown, waits := Function.update tasks.waits wait phase }

/-- Give a receiver a subscription, or take it. -/
def setReceiver (tasks : AtomicTasks) (receiver : Nat) (subscription : Option ReceiverId)
    (shutdown : Shutdown) : AtomicTasks :=
  { tasks with
    shutdown := shutdown
    receivers := Function.update tasks.receivers receiver subscription }

/-- One atomic step of one task. -/
inductive Step (tasks : AtomicTasks) : AtomicAct → AtomicTasks → Prop where
  | raise (call : Nat) (ready : tasks.calls call = .notBegun) :
      Step tasks (.raise call) (tasks.setCall call .raised tasks.shutdown.raise)
  | broadcast (call : Nat) (raised : tasks.calls call = .raised) :
      Step tasks (.broadcast call) (tasks.setCall call .completed tasks.shutdown.broadcast)
  | subscribe (receiver : Nat) (free : tasks.receivers receiver = none) :
      Step tasks (.subscribe receiver)
        (tasks.setReceiver receiver (some tasks.shutdown.subscribe.1) tasks.shutdown.subscribe.2)
  | receive (receiver : Nat) (subscription : ReceiverId)
      (held : tasks.receivers receiver = some subscription) :
      Step tasks (.receive receiver)
        { tasks with shutdown := (tasks.shutdown.receive subscription).2 }
  | dropReceiver (receiver : Nat) (subscription : ReceiverId)
      (held : tasks.receivers receiver = some subscription) :
      Step tasks (.dropReceiver receiver)
        (tasks.setReceiver receiver none (tasks.shutdown.release subscription))
  | waitSubscribes (wait : Nat) (idle : tasks.waits wait = .idle) :
      Step tasks (.advance wait .goesOn)
        (tasks.setWait wait (.subscribed tasks.shutdown.subscribe.1) tasks.shutdown.subscribe.2)
  | waitLooks (wait : Nat) (receiver : ReceiverId)
      (subscribed : tasks.waits wait = .subscribed receiver) :
      Step tasks (.advance wait (answerOf .goesOn (tasks.shutdown.checkFlag receiver).1))
        (tasks.setWait wait (.held (tasks.shutdown.checkFlag receiver).1)
          (tasks.shutdown.checkFlag receiver).2)
  | waitReceives (wait : Nat) (receiver : ReceiverId)
      (pending : tasks.waits wait = .held (.pending receiver)) :
      Step tasks
        (.advance wait (answerOf .pending (tasks.shutdown.pollWait (.pending receiver)).1))
        (tasks.setWait wait (.held (tasks.shutdown.pollWait (.pending receiver)).1)
          (tasks.shutdown.pollWait (.pending receiver)).2)
  | dropWait (wait : Nat) :
      Step tasks (.dropWait wait)
        (tasks.setWait wait .dropped
          ((tasks.waits wait).subscription?.elim tasks.shutdown tasks.shutdown.release))

/-- The points that some atomic steps lead to. -/
inductive Leads (start : AtomicTasks) : AtomicTasks → Prop where
  | refl : Leads start start
  | step {tasks next : AtomicTasks} {act : AtomicAct} (leads : Leads start tasks)
      (step : Step tasks act next) : Leads start next

/-- The points that the tasks of a new shutdown can come to. -/
def Reachable (tasks : AtomicTasks) : Prop := Leads initial tasks

/-- What other tasks lead to while a wait does nothing. -/
inductive Meanwhile (wait : Nat) (start : AtomicTasks) : AtomicTasks → Prop where
  | refl : Meanwhile wait start start
  | step {tasks next : AtomicTasks} {act : AtomicAct} (before : Meanwhile wait start tasks)
      (step : Step tasks act next) (other : ¬ act.IsOf wait) : Meanwhile wait start next

/-- The poll of a wait that is under way, or its next one, answers `ready`,
whatever other tasks do before and between its steps: the wait can always make a
step, none of them answers `pending`, and they come to an end. -/
inductive ReadyAtNextPoll (wait : Nat) : AtomicTasks → Prop where
  | intro (tasks : AtomicTasks)
      (canStep : ∀ later, Meanwhile wait tasks later →
        ∃ answer next, Step later (.advance wait answer) next)
      (notPending : ∀ later answer next, Meanwhile wait tasks later →
        Step later (.advance wait answer) next → answer ≠ .pending)
      (goesOn : ∀ later next, Meanwhile wait tasks later →
        Step later (.advance wait .goesOn) next → ReadyAtNextPoll wait next) :
      ReadyAtNextPoll wait tasks

end AtomicTasks

/-! ### Handles -/

/-- Shutdowns with their tasks, and the shutdown that each handle stands for. -/
structure AtomicGroup where
  shutdowns : Nat → AtomicTasks
  handles : Nat → Option Nat

namespace AtomicGroup

/-- Before anything is made there is no handle. -/
def initial : AtomicGroup :=
  { shutdowns := fun _ => .initial
    handles := fun _ => none }

/-- A handle tells whether its shutdown has been triggered. -/
def isTriggered? (group : AtomicGroup) (handle : Nat) : Option Bool :=
  (group.handles handle).map fun member => (group.shutdowns member).shutdown.isTriggered

/-- One step: a new shutdown, a new handle for an old one, or an atomic step of a
task that has a handle. -/
inductive Step (group : AtomicGroup) : AtomicGroup → Prop where
  | create (handle member : Nat) (free : group.handles handle = none)
      (unused : ∀ other, group.handles other ≠ some member) :
      Step group
        { shutdowns := Function.update group.shutdowns member .initial
          handles := Function.update group.handles handle (some member) }
  | clone (handle copy member : Nat) (known : group.handles handle = some member)
      (free : group.handles copy = none) :
      Step group { group with handles := Function.update group.handles copy (some member) }
  | act (handle member : Nat) (act : AtomicAct) (after : AtomicTasks)
      (known : group.handles handle = some member)
      (step : AtomicTasks.Step (group.shutdowns member) act after) :
      Step group { group with shutdowns := Function.update group.shutdowns member after }

/-- The groups that some steps lead to. -/
inductive Leads (start : AtomicGroup) : AtomicGroup → Prop where
  | refl : Leads start start
  | step {group next : AtomicGroup} (leads : Leads start group) (step : Step group next) :
      Leads start next

/-- The groups that can come about. -/
def Reachable (group : AtomicGroup) : Prop := Leads initial group

end AtomicGroup

end WebHost
