/-
Module: WebHost.Shutdown.Group
Purpose: Several shutdowns and the handles by which tasks reach them.
Main exports:
  ShutdownGroup, GroupStep, GroupOutcome, ShutdownGroup.step
-/
import WebHost.Shutdown.Tasks

namespace WebHost

/-!
A handle stands for one shutdown, of which there may be several.  Handles,
receivers and waits are numbered across all shutdowns, in the order in which
they were made.  A wait is made and left for a later poll, or made and polled at
once.
-/

/-- Shutdowns, the shutdown of each handle, and the shutdown and the number
within it of each receiver and each wait. -/
structure ShutdownGroup where
  members : List Tasks
  handles : List Nat
  receivers : List (Nat × Nat)
  waits : List (Nat × Nat)
deriving Repr, Inhabited, DecidableEq

/-- What is done by a handle. -/
inductive HandleStep where
  | clone
  | subscribe
  | trigger
  | isTriggered
  | count
  | makeWait
  | wait
deriving Repr, Inhabited, DecidableEq

/-- A step of a task in a group. -/
inductive GroupStep where
  | new
  | atHandle (handle : Nat) (step : HandleStep)
  | poll (wait : Nat)
  | receive (receiver : Nat)
  | dropReceiver (receiver : Nat)
  | dropWait (wait : Nat)
deriving Repr, Inhabited, DecidableEq

/-- What comes of a step, or that its handle is unknown. -/
inductive GroupOutcome where
  | task (outcome : TaskOutcome)
  | unknownHandle
deriving Repr, Inhabited, DecidableEq

namespace ShutdownGroup

/-- One shutdown with one handle. -/
def initial : ShutdownGroup :=
  { members := [.initial]
    handles := [0]
    receivers := []
    waits := [] }

/-- A step within one shutdown. -/
def stepMember (group : ShutdownGroup) (member : Nat) (step : TaskStep) :
    TaskOutcome × ShutdownGroup :=
  match group.members[member]? with
  | some tasks =>
      let (outcome, tasks) := tasks.step step
      (outcome, { group with members := group.members.set member tasks })
  | none => (.nothing, group)

/-- A new handle for a shutdown. -/
def addHandle (group : ShutdownGroup) (member : Nat) : TaskOutcome × ShutdownGroup :=
  (.number group.handles.length, { group with handles := group.handles ++ [member] })

/-- A step by a handle for a shutdown. -/
def stepHandle (group : ShutdownGroup) (member : Nat) : HandleStep → TaskOutcome × ShutdownGroup
  | .clone => group.addHandle member
  | .trigger => group.stepMember member .trigger
  | .isTriggered => group.stepMember member .isTriggered
  | .count => group.stepMember member .count
  | .subscribe =>
      let held := ((group.members[member]?).map fun tasks => tasks.receivers.length).getD 0
      let (_, after) := group.stepMember member .subscribe
      (.number group.receivers.length,
        { after with receivers := group.receivers ++ [(member, held)] })
  | .makeWait =>
      let made := ((group.members[member]?).map fun tasks => tasks.waits.length).getD 0
      let (_, after) := group.stepMember member .makeWait
      (.number group.waits.length, { after with waits := group.waits ++ [(member, made)] })
  | .wait =>
      let begun := ((group.members[member]?).map fun tasks => tasks.waits.length).getD 0
      let (outcome, after) := group.stepMember member .beginWait
      (outcome, { after with waits := group.waits ++ [(member, begun)] })

/-- A step of a receiver. -/
def stepReceiver (group : ShutdownGroup) (receiver : Nat) (make : Nat → TaskStep) :
    TaskOutcome × ShutdownGroup :=
  match group.receivers[receiver]? with
  | some (member, number) => group.stepMember member (make number)
  | none => (.unknownReceiver, group)

/-- A step of a wait. -/
def stepWait (group : ShutdownGroup) (wait : Nat) (make : Nat → TaskStep) :
    TaskOutcome × ShutdownGroup :=
  match group.waits[wait]? with
  | some (member, number) => group.stepMember member (make number)
  | none => (.unknownWait, group)

/-- One step of a task. -/
def step (group : ShutdownGroup) : GroupStep → GroupOutcome × ShutdownGroup
  | .new =>
      let (outcome, after) := group.addHandle group.members.length
      (.task outcome, { after with members := group.members ++ [.initial] })
  | .atHandle handle step =>
      match group.handles[handle]? with
      | some member =>
          let (outcome, after) := group.stepHandle member step
          (.task outcome, after)
      | none => (.unknownHandle, group)
  | .poll wait =>
      let (outcome, after) := group.stepWait wait .pollWait
      (.task outcome, after)
  | .receive receiver =>
      let (outcome, after) := group.stepReceiver receiver .receive
      (.task outcome, after)
  | .dropReceiver receiver =>
      let (outcome, after) := group.stepReceiver receiver .dropReceiver
      (.task outcome, after)
  | .dropWait wait =>
      let (outcome, after) := group.stepWait wait .dropWait
      (.task outcome, after)

end ShutdownGroup

end WebHost
