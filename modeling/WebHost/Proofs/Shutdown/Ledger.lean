/-
Module: WebHost.Proofs.Shutdown.Ledger
Purpose: What tasks can write down about their receivers and waits, and that every
  shutdown of a group stands as it is written.
Main exports:
  ReceiverRecord, WaitRecord, ReceiverLedger, ReceiverLedger.note, afterSteps,
  WaitStatus, ReceiverLedger.Tells, ReceiverLedger.tells_step,
  ReceiverLedger.tells_afterSteps
-/
import Mathlib.Data.List.Induction
import WebHost.Proofs.Shutdown.Numbering

namespace WebHost

/-!
The tasks of a group can keep a ledger of their own: of which shutdown each handle
is, at which one they have subscribed or made a wait, which receivers and waits they
have dropped, and which waits they have polled, with what answer.  Nothing else is
written there.  The invariant is that under every number of a receiver or a wait there
stands what its record shows.
-/

/-! ### The ledger -/

/-- A receiver: the shutdown where it was made, and whether it was dropped. -/
structure ReceiverRecord where
  shutdown : Nat
  dropped : Bool
deriving Repr, DecidableEq

/-- A wait: the shutdown where it was made, whether it was polled, whether a poll
found it ready, and whether it was dropped. -/
structure WaitRecord where
  shutdown : Nat
  polled : Bool
  completed : Bool
  dropped : Bool
deriving Repr, DecidableEq

/-- A wait that was made at a shutdown. -/
def WaitRecord.made (shutdown : Nat) : WaitRecord :=
  { shutdown := shutdown
    polled := false
    completed := false
    dropped := false }

/-- A poll, by its answer. -/
def WaitRecord.poll (record : WaitRecord) (answer : GroupOutcome) : WaitRecord :=
  { record with
    polled := true
    completed := record.completed || answer = .task .ready }

/-- How many shutdowns there are, the shutdown of each handle, the receivers and the
waits. -/
structure ReceiverLedger where
  shutdowns : Nat
  handles : List Nat
  receivers : List ReceiverRecord
  waits : List WaitRecord
deriving Repr, DecidableEq

namespace ReceiverLedger

/-- One shutdown with one handle. -/
def initial : ReceiverLedger :=
  { shutdowns := 1
    handles := [0]
    receivers := []
    waits := [] }

/-- What is written after a step by a handle of a shutdown. -/
def noteAtHandle (ledger : ReceiverLedger) (shutdown : Nat) (answer : GroupOutcome) :
    HandleStep → ReceiverLedger
  | .clone => { ledger with handles := ledger.handles ++ [shutdown] }
  | .subscribe =>
      { ledger with
        receivers := ledger.receivers ++ [{ shutdown := shutdown, dropped := false }] }
  | .makeWait => { ledger with waits := ledger.waits ++ [.made shutdown] }
  | .wait => { ledger with waits := ledger.waits ++ [(WaitRecord.made shutdown).poll answer] }
  | .trigger | .isTriggered | .count => ledger

/-- What is written after a step, by the answer to it. -/
def note (ledger : ReceiverLedger) (answer : GroupOutcome) : GroupStep → ReceiverLedger
  | .new =>
      { ledger with
        shutdowns := ledger.shutdowns + 1
        handles := ledger.handles ++ [ledger.shutdowns] }
  | .atHandle handle made =>
      match ledger.handles[handle]? with
      | some shutdown => ledger.noteAtHandle shutdown answer made
      | none => ledger
  | .poll wait => { ledger with waits := ledger.waits.modify wait (·.poll answer) }
  | .dropWait wait =>
      { ledger with waits := ledger.waits.modify wait ({ · with dropped := true }) }
  | .dropReceiver receiver =>
      { ledger with receivers := ledger.receivers.modify receiver ({ · with dropped := true }) }
  | .receive _ => ledger

end ReceiverLedger

/-- A group after some steps from one shutdown with one handle, and the ledger of
them. -/
def afterSteps (steps : List GroupStep) : ShutdownGroup × ReceiverLedger :=
  steps.foldl
    (fun state made => ((state.1.step made).2, state.2.note (state.1.step made).1 made))
    (.initial, .initial)

theorem afterSteps_concat (steps : List GroupStep) (made : GroupStep) :
    afterSteps (steps ++ [made]) =
      (((afterSteps steps).1.step made).2,
        (afterSteps steps).2.note ((afterSteps steps).1.step made).1 made) := by
  rw [afterSteps, List.foldl_concat]
  rfl

/-! ### What the records show -/

/-- How far a wait has come, as far as its subscription goes. -/
inductive WaitStatus where
  | notPolled
  | running
  | over
deriving Repr, DecidableEq

/-- What is left by a poll with some answer. -/
def WaitStatus.poll (status : WaitStatus) (answer : TaskOutcome) : WaitStatus :=
  if status = .over ∨ answer = .ready then .over else .running

/-- What the state of a wait shows. -/
def TaskWait.status : TaskWait → WaitStatus
  | .idle => .notPolled
  | .running (.pending _) => .running
  | .running .finished | .dropped => .over

theorem TaskWait.Polled.status {shutdown : Shutdown} {wait : TaskWait}
    {result : TaskOutcome × TaskWait × Shutdown} (polled : wait.Polled shutdown result) :
    result.2.1.status = wait.status.poll result.1 := by
  cases polled <;> rfl

/-- What the record of a wait shows. -/
def WaitRecord.status (record : WaitRecord) : WaitStatus :=
  if record.completed ∨ record.dropped then .over
  else if record.polled then .running
  else .notPolled

theorem WaitRecord.status_eq_over_iff (record : WaitRecord) :
    record.status = .over ↔ record.completed ∨ record.dropped := by
  unfold status
  split
  · simpa using ‹_›
  · split <;> simpa using ‹¬ (record.completed ∨ record.dropped)›

theorem WaitRecord.status_poll (record : WaitRecord) (answer : TaskOutcome) :
    (record.poll (.task answer)).status = record.status.poll answer := by
  have ended : (record.status = .over ∨ answer = .ready) ↔
      ((record.poll (.task answer)).completed ∨ (record.poll (.task answer)).dropped) := by
    rw [status_eq_over_iff]
    simp only [poll, Bool.or_eq_true, decide_eq_true_eq, GroupOutcome.task.injEq]
    tauto
  rw [WaitStatus.poll, status, if_congr ended.symm rfl rfl]
  rfl

/-- A receiver with the place where it was made, and whether it is open. -/
def ReceiverRecord.shown (record : ReceiverRecord) : Nat × Bool :=
  (record.shutdown, !record.dropped)

/-- A wait with the place where it was made, and how far it has come. -/
def WaitRecord.shown (record : WaitRecord) : Nat × WaitStatus :=
  (record.shutdown, record.status)

/-! ### The group stands as the ledger tells -/

namespace ReceiverLedger

/-- What a receiver shows: whether it has a subscription. -/
def receiverView (receiver : Option (Option ReceiverId)) : Bool := receiver.join.isSome

/-- What a wait shows: how far it has come. -/
def waitView (wait : Option TaskWait) : WaitStatus := (wait.getD .idle).status

/-- A group stands as its ledger tells: under each number there is a receiver or a wait
of the shutdown that the ledger names, and as the ledger says. -/
structure Tells (ledger : ReceiverLedger) (group : ShutdownGroup) : Prop where
  shutdowns : ledger.shutdowns = group.members.length
  handles : ledger.handles = group.handles
  known : ∀ member ∈ group.handles, member < group.members.length
  receivers : Listed receiverView (fun member => (group.memberAt member).receivers)
    group.receivers (ledger.receivers.map ReceiverRecord.shown)
  waits : Listed waitView (fun member => (group.memberAt member).waits)
    group.waits (ledger.waits.map WaitRecord.shown)

theorem tells_initial : initial.Tells .initial := by
  have nothing : ShutdownGroup.initial.memberAt = fun _ => .initial := by
    funext member
    cases member <;> rfl
  refine ⟨rfl, rfl, by decide, ?_, ?_⟩
  · rw [nothing]
    exact .empty _
  · rw [nothing]
    exact .empty _

namespace Tells

variable {ledger : ReceiverLedger} {group : ShutdownGroup} {member place number : Nat}

/-- A step at one shutdown, which may number a new receiver or a new wait there. -/
theorem withMember (tells : ledger.Tells group) (known : member < group.members.length)
    {tasks : Tasks} {receivers : List ReceiverRecord} {waits : List WaitRecord}
    {receiverPlaces waitPlaces : List (Nat × Nat)}
    (listedReceivers : Listed receiverView
      (Function.update (fun other => (group.memberAt other).receivers) member tasks.receivers)
      receiverPlaces (receivers.map ReceiverRecord.shown))
    (listedWaits : Listed waitView
      (Function.update (fun other => (group.memberAt other).waits) member tasks.waits)
      waitPlaces (waits.map WaitRecord.shown)) :
    Tells { ledger with receivers := receivers, waits := waits }
      { group with
        members := group.members.set member tasks
        receivers := receiverPlaces
        waits := waitPlaces } := by
  have members : ∀ other, ({ group with
      members := group.members.set member tasks
      receivers := receiverPlaces
      waits := waitPlaces } : ShutdownGroup).memberAt other =
        Function.update group.memberAt member tasks other :=
    ShutdownGroup.memberAt_set known tasks
  refine ⟨?_, tells.handles, ?_, ?_, ?_⟩
  · rw [List.length_set]
    exact tells.shutdowns
  · rw [List.length_set]
    exact tells.known
  · simp only [members, Function.apply_update fun _ => Tasks.receivers]
    exact listedReceivers
  · simp only [members, Function.apply_update fun _ => Tasks.waits]
    exact listedWaits

/-- A wait that is made at a shutdown. -/
theorem appendWait (tells : ledger.Tells group) (known : member < group.members.length)
    (shutdown : Shutdown) (wait : TaskWait) {record : WaitRecord}
    (shown : record.shown = (member, wait.status)) :
    Tells { ledger with waits := ledger.waits ++ [record] }
      { group with
        members := group.members.set member
          { group.memberAt member with
            shutdown := shutdown
            waits := (group.memberAt member).waits ++ [wait] }
        waits := group.waits ++ [(member, (group.memberAt member).waits.length)] } := by
  refine tells.withMember known (tells.receivers.kept member) ?_
  rw [List.map_append, List.map_singleton, shown]
  exact tells.waits.append member wait

/-- A wait of a shutdown that comes to another point. -/
theorem setWait (tells : ledger.Tells group) (known : member < group.members.length)
    (given : group.waits[number]? = some (member, place)) (shutdown : Shutdown) (wait : TaskWait)
    {record : WaitRecord} (shown : record.shown = (member, wait.status)) :
    Tells { ledger with waits := ledger.waits.set number record }
      { group with
        members := group.members.set member
          { group.memberAt member with
            shutdown := shutdown
            waits := (group.memberAt member).waits.set place wait } } := by
  refine tells.withMember known (tells.receivers.kept member) ?_
  rw [List.map_set, shown]
  exact tells.waits.set given wait

/-- A step that leaves the receivers and the waits of a shutdown as they are. -/
theorem setShutdown (tells : ledger.Tells group) (known : member < group.members.length)
    (shutdown : Shutdown) :
    ledger.Tells
      { group with
        members := group.members.set member { group.memberAt member with shutdown := shutdown } } :=
  tells.withMember known (tells.receivers.kept member) (tells.waits.kept member)

/-- A receiver that is made at a shutdown. -/
theorem appendReceiver (tells : ledger.Tells group) (known : member < group.members.length)
    (shutdown : Shutdown) (receiver : ReceiverId) :
    Tells
      { ledger with
        receivers := ledger.receivers ++ [{ shutdown := member, dropped := false }] }
      { group with
        members := group.members.set member
          { group.memberAt member with
            shutdown := shutdown
            receivers := (group.memberAt member).receivers ++ [some receiver] }
        receivers := group.receivers ++ [(member, (group.memberAt member).receivers.length)] } := by
  refine tells.withMember known ?_ (tells.waits.kept member)
  rw [List.map_append]
  exact tells.receivers.append member (some receiver)

/-- A receiver of a shutdown that is dropped. -/
theorem dropReceiver (tells : ledger.Tells group) (known : member < group.members.length)
    (given : group.receivers[number]? = some (member, place)) (shutdown : Shutdown)
    {record : ReceiverRecord} (shown : record.shown = (member, false)) :
    Tells { ledger with receivers := ledger.receivers.set number record }
      { group with
        members := group.members.set member
          { group.memberAt member with
            shutdown := shutdown
            receivers := (group.memberAt member).receivers.set place none } } := by
  refine tells.withMember known ?_ (tells.waits.kept member)
  rw [List.map_set, shown]
  exact tells.receivers.set given none

/-! ### Steps -/

/-- A step by a handle leaves the group as the ledger tells after it. -/
theorem stepHandle (tells : ledger.Tells group) (known : member < group.members.length)
    (made : HandleStep) :
    (ledger.noteAtHandle member (.task (group.stepHandle member made).1) made).Tells
      (group.stepHandle member made).2 := by
  have found := ShutdownGroup.getElem?_members known
  have stepped := fun made => ShutdownGroup.stepMember_of_known known made
  cases made with
  | clone =>
      refine ⟨tells.shutdowns, ?_, ?_, tells.receivers, tells.waits⟩
      · show ledger.handles ++ [member] = group.handles ++ [member]
        rw [tells.handles]
      · intro other among
        rcases List.mem_append.1 among with before | new
        · exact tells.known other before
        · rwa [List.mem_singleton.1 new]
  | trigger =>
      rw [ShutdownGroup.stepHandle, stepped]
      exact tells.setShutdown known _
  | isTriggered =>
      rw [ShutdownGroup.stepHandle, stepped]
      exact tells.setShutdown known (group.memberAt member).shutdown
  | count =>
      rw [ShutdownGroup.stepHandle, stepped]
      exact tells.setShutdown known (group.memberAt member).shutdown
  | subscribe =>
      simp only [ShutdownGroup.stepHandle, stepped, found, Option.map_some, Option.getD_some]
      exact tells.appendReceiver known _ _
  | makeWait =>
      simp only [ShutdownGroup.stepHandle, stepped, found, Option.map_some, Option.getD_some]
      exact tells.appendWait known (group.memberAt member).shutdown .idle rfl
  | wait =>
      simp only [ShutdownGroup.stepHandle, stepped, found, Option.map_some, Option.getD_some]
      have polled := Tasks.pollHeld_polled (group.memberAt member).shutdown .idle
      refine tells.appendWait known _ _ (Prod.ext rfl ?_)
      exact (WaitRecord.status_poll _ _).trans polled.status.symm

/-- A step of a wait, by what it makes of the wait and by what is written of it. -/
theorem stepWait (tells : ledger.Tells group) (wait : Nat) {make : Nat → TaskStep}
    {change : WaitRecord → WaitRecord}
    (changes : ∀ member place held, group.waits[wait]? = some (member, place) →
      (group.memberAt member).waits[place]? = some held →
      ∃ shutdown after, ((group.memberAt member).step (make place)).2 =
          { group.memberAt member with
            shutdown := shutdown
            waits := (group.memberAt member).waits.set place after } ∧
        ∀ record : WaitRecord, record.status = held.status →
          (change record).shown = (record.shutdown, after.status)) :
    Tells { ledger with waits := ledger.waits.modify wait change }
      (group.stepWait wait make).2 := by
  cases given : group.waits[wait]? with
  | none =>
      have absent := List.getElem?_eq_none_iff.1 (tells.waits.record_eq_none given)
      simpa [ShutdownGroup.stepWait, given, List.modify_eq_self absent] using tells
  | some slot =>
      obtain ⟨member, place⟩ := slot
      obtain ⟨held, record, found, noted, shows⟩ := tells.waits.exists_record given
      obtain ⟨owner, status⟩ := Prod.mk.inj shows
      have known := ShutdownGroup.lt_of_wait found
      obtain ⟨shutdown, after, does, writes⟩ := changes member place held given found
      simp only [ShutdownGroup.stepWait, given, ShutdownGroup.stepMember_of_known known, does,
        modify_of_getElem? noted]
      exact tells.setWait known given shutdown after (owner ▸ writes record status)

/-- A poll of a wait, by its answer. -/
theorem poll (tells : ledger.Tells group) (wait : Nat) :
    (ledger.note (group.step (.poll wait)).1 (.poll wait)).Tells (group.step (.poll wait)).2 := by
  refine tells.stepWait wait fun member place held given found => ?_
  let polled := Tasks.pollHeld (group.memberAt member).shutdown held
  have does : held.Polled (group.memberAt member).shutdown polled := Tasks.pollHeld_polled _ held
  refine ⟨polled.2.2, polled.2.1, ?_, fun record status => Prod.ext rfl ?_⟩
  · rw [Tasks.step, found]
  · show (record.poll (group.step (.poll wait)).1).status = polled.2.1.status
    rw [(ShutdownGroup.step_poll given found).1, does.status, ← status]
    exact WaitRecord.status_poll record _

theorem stepDropWait (tells : ledger.Tells group) (wait : Nat) :
    (ledger.note (group.step (.dropWait wait)).1 (.dropWait wait)).Tells
      (group.step (.dropWait wait)).2 := by
  refine tells.stepWait wait fun member place held _ found => ?_
  refine ⟨Tasks.releaseWait (group.memberAt member).shutdown held, .dropped, ?_,
    fun record _ => Prod.ext rfl ?_⟩
  · rw [Tasks.step, found]
  · exact (WaitRecord.status_eq_over_iff _).2 (.inr rfl)

theorem stepDropReceiver (tells : ledger.Tells group) (receiver : Nat) :
    (ledger.note (group.step (.dropReceiver receiver)).1 (.dropReceiver receiver)).Tells
      (group.step (.dropReceiver receiver)).2 := by
  cases given : group.receivers[receiver]? with
  | none =>
      have absent := List.getElem?_eq_none_iff.1 (tells.receivers.record_eq_none given)
      simpa [ShutdownGroup.step, ShutdownGroup.stepReceiver, given, note,
        List.modify_eq_self absent] using tells
  | some slot =>
      obtain ⟨member, place⟩ := slot
      obtain ⟨held, record, found, noted, shows⟩ := tells.receivers.exists_record given
      have known := ShutdownGroup.lt_of_receiver found
      have owner : record.shutdown = member := congrArg Prod.fst shows
      have shown : ReceiverRecord.shown { record with dropped := true } = (member, false) :=
        Prod.ext owner rfl
      simp only [ShutdownGroup.step, ShutdownGroup.stepReceiver, given, note,
        ShutdownGroup.stepMember_of_known known, Tasks.step, found, modify_of_getElem? noted]
      cases held with
      | some subscription => exact tells.dropReceiver known given _ shown
      | none =>
          -- It was dropped before, so that there is nothing to end.
          obtain ⟨inside, empty⟩ := List.getElem?_eq_some_iff.1 found
          have again : (group.memberAt member).receivers.set place none =
              (group.memberAt member).receivers := by
            rw [← empty, List.set_getElem_self]
          have stays := tells.dropReceiver known given (group.memberAt member).shutdown shown
          rwa [again] at stays

theorem stepReceive (tells : ledger.Tells group) (receiver : Nat) :
    ledger.Tells (group.step (.receive receiver)).2 := by
  cases given : group.receivers[receiver]? with
  | none => simpa [ShutdownGroup.step, ShutdownGroup.stepReceiver, given] using tells
  | some slot =>
      obtain ⟨member, place⟩ := slot
      obtain ⟨held, _, found, _⟩ := tells.receivers.exists_record given
      have known := ShutdownGroup.lt_of_receiver found
      simp only [ShutdownGroup.step, ShutdownGroup.stepReceiver, given,
        ShutdownGroup.stepMember_of_known known, Tasks.step, found]
      cases held with
      | none => exact tells.setShutdown known (group.memberAt member).shutdown
      | some subscription => exact tells.setShutdown known _

end Tells

/-- Every step leaves the group as the ledger tells after it. -/
theorem tells_step {ledger : ReceiverLedger} {group : ShutdownGroup} (tells : ledger.Tells group)
    (made : GroupStep) : (ledger.note (group.step made).1 made).Tells (group.step made).2 := by
  cases made with
  | new =>
      have members : ∀ other, (group.step .new).2.memberAt other = group.memberAt other :=
        group.memberAt_new
      refine ⟨?_, ?_, ?_, ?_, ?_⟩
      · show ledger.shutdowns + 1 = (group.members ++ [Tasks.initial]).length
        rw [tells.shutdowns, List.length_append, List.length_singleton]
      · show ledger.handles ++ [ledger.shutdowns] = group.handles ++ [group.members.length]
        rw [tells.handles, tells.shutdowns]
      · intro member among
        show member < (group.members ++ [Tasks.initial]).length
        rw [List.length_append, List.length_singleton]
        rcases List.mem_append.1 among with before | new
        · exact Nat.lt_succ_of_lt (tells.known member before)
        · rw [List.mem_singleton.1 new]
          exact Nat.lt_succ_self _
      · simp only [members]
        exact tells.receivers
      · simp only [members]
        exact tells.waits
  | atHandle handle made =>
      cases given : group.handles[handle]? with
      | none => simpa [ShutdownGroup.step, note, given, tells.handles] using tells
      | some member =>
          have known := tells.known member (List.mem_of_getElem? given)
          simp only [ShutdownGroup.step, note, given, tells.handles]
          exact tells.stepHandle known made
  | poll wait => exact tells.poll wait
  | receive receiver => exact tells.stepReceive receiver
  | dropReceiver receiver => exact tells.stepDropReceiver receiver
  | dropWait wait => exact tells.stepDropWait wait

theorem tells_afterSteps (steps : List GroupStep) :
    (afterSteps steps).2.Tells (afterSteps steps).1 := by
  induction steps using List.reverseRecOn with
  | nil => exact tells_initial
  | append_singleton steps made ih =>
      rw [afterSteps_concat]
      exact tells_step ih made

end ReceiverLedger

end WebHost
