/-
Module: WebHost.Proofs.Shutdown.ReceiverCount
Purpose: A shutdown counts the receivers that somebody holds, told from the steps of
  its tasks and from what came of them.
Main exports:
  ReceiverLedger.openReceivers, ReceiverLedger.runningWaits,
  ShutdownGroup.poll_eq_ready_iff, ShutdownGroup.released_of_poll_ready,
  ShutdownGroup.wait_of_flag_up, receiver_count_follows_holders
-/
import Mathlib.Tactic.Tauto
import WebHost.Proofs.Shutdown.Ledger

namespace WebHost

/-!
A receiver is counted until it is dropped.  A wait makes one of its own at its first
poll, and has to end it however it is over: by what it finds when it is polled, or by
being dropped.
-/

/-! ### Counting -/

namespace ReceiverLedger

/-- The receivers of a shutdown that are not dropped. -/
def openReceivers (ledger : ReceiverLedger) (shutdown : Nat) : Nat :=
  ledger.receivers.countP fun record => record.shutdown = shutdown ∧ ¬ record.dropped

/-- The waits of a shutdown that have been polled at least once, have not completed
and have not been dropped. -/
def runningWaits (ledger : ReceiverLedger) (shutdown : Nat) : Nat :=
  ledger.waits.countP fun record =>
    record.shutdown = shutdown ∧ record.polled ∧ ¬ record.completed ∧ ¬ record.dropped

end ReceiverLedger

theorem TaskWait.status_eq_running_iff (wait : TaskWait) :
    wait.status = .running ↔ wait.subscription?.isSome = true := by
  rcases wait with _ | ⟨_ | _⟩ | _ <;> simp [status, subscription?]

theorem WaitRecord.status_eq_running_iff (record : WaitRecord) :
    record.status = .running ↔ record.polled ∧ ¬ record.completed ∧ ¬ record.dropped := by
  unfold status
  by_cases ended : record.completed ∨ record.dropped
  · rw [if_pos ended]
    tauto
  · rw [if_neg ended]
    obtain ⟨uncompleted, undropped⟩ := not_or.1 ended
    by_cases polled : record.polled <;> simp [polled, uncompleted, undropped]

namespace ReceiverLedger

namespace Tells

variable {ledger : ReceiverLedger} {group : ShutdownGroup}

theorem openReceivers_eq (tells : ledger.Tells group) (member : Nat) :
    ledger.openReceivers member = (group.memberAt member).receivers.countP (·.isSome) := by
  have counted := tells.receivers.countP_eq member id
  rw [List.countP_map] at counted
  refine Eq.trans (List.countP_congr fun record _ => ?_) counted
  show _ ↔ (decide (record.shutdown = member) && !record.dropped) = true
  simp

theorem runningWaits_eq (tells : ledger.Tells group) (member : Nat) :
    ledger.runningWaits member =
      (group.memberAt member).waits.countP (·.subscription?.isSome) := by
  have counted := tells.waits.countP_eq member (· = .running)
  rw [List.countP_map] at counted
  calc ledger.runningWaits member
      = ledger.waits.countP ((fun entry => entry.1 = member && decide (entry.2 = .running)) ∘
          WaitRecord.shown) := by
        refine List.countP_congr fun record _ => ?_
        show _ ↔ (decide (record.shutdown = member) && decide (record.status = .running)) = true
        simp only [Bool.and_eq_true, decide_eq_true_eq, record.status_eq_running_iff]
    _ = (group.memberAt member).waits.countP fun wait => waitView (some wait) = .running := counted
    _ = (group.memberAt member).waits.countP (·.subscription?.isSome) :=
        List.countP_congr fun wait _ => by
          rw [decide_eq_true_eq]
          exact wait.status_eq_running_iff

end Tells

end ReceiverLedger

theorem reachable_afterSteps (steps : List GroupStep) : (afterSteps steps).1.Reachable := by
  induction steps using List.reverseRecOn with
  | nil => exact .initial
  | append_singleton steps made ih =>
      rw [afterSteps_concat]
      exact .step ih made

/-! ### Waits that complete -/

namespace ShutdownGroup

section Polling

variable {group : ShutdownGroup} {wait shutdown : Nat} {held : TaskWait}

/-- A poll completes a wait exactly if the wait finds a reason. -/
theorem poll_eq_ready_iff (reachable : group.Reachable)
    (stands : group.waitAt? wait = some (shutdown, held)) :
    (group.step (.poll wait)).1 = .task .ready ↔
      ∃ reason, held.Finds (group.memberAt shutdown).shutdown reason := by
  obtain ⟨place, numbered, found⟩ := waitAt?_eq_some_iff.1 stands
  have holds := (reachable_memberAt reachable shutdown).heldAs.of_perm (Tasks.held_perm_wait found)
  have does := Tasks.pollHeld_polled (group.memberAt shutdown).shutdown held
  rw [(step_poll numbered found).1, GroupOutcome.task.injEq]
  exact Tasks.ready_iff_finds does holds

/-- A poll that completes a wait ends the subscription that the wait held, and no other. -/
theorem released_of_poll_ready (reachable : group.Reachable)
    (stands : group.waitAt? wait = some (shutdown, held))
    (ready : (group.step (.poll wait)).1 = .task .ready) :
    let now := (group.memberAt shutdown).shutdown
    let later := ((group.step (.poll wait)).2.memberAt shutdown).shutdown
    later.subscriptions =
        now.subscriptions.filter (fun receiver => held.subscription? ≠ some receiver) ∧
      later.receiverCount + held.subscription?.toList.length = now.receiverCount := by
  intro now later
  obtain ⟨place, numbered, found⟩ := waitAt?_eq_some_iff.1 stands
  obtain ⟨answer, after⟩ := step_poll numbered found
  have holds := (reachable_memberAt reachable shutdown).heldAs.of_perm (Tasks.held_perm_wait found)
  have does := Tasks.pollHeld_polled now held
  have completed := GroupOutcome.task.inj (answer.symm.trans ready)
  have counted := (Tasks.heldAs_of_ready does holds completed).receiverCount_eq
  rw [show later = _ from after]
  refine ⟨Tasks.subscriptions_of_ready does holds completed, ?_⟩
  rw [counted, holds.receiverCount_eq, List.length_append, Nat.add_comm]

/-- A wait that is made and polled when the flag is up leaves no subscription. -/
theorem wait_of_flag_up (reachable : group.Reachable) {handle : Nat}
    (given : group.handles[handle]? = some shutdown) (made : shutdown < group.members.length)
    (up : (group.memberAt shutdown).shutdown.isTriggered = true) :
    (group.step (.atHandle handle .wait)).1 = .task .ready ∧
      ((group.step (.atHandle handle .wait)).2.memberAt shutdown).shutdown.subscriptions =
        (group.memberAt shutdown).shutdown.subscriptions := by
  obtain ⟨answer, after⟩ := step_wait given made
  -- A wait that has not begun holds nothing beside what the tasks hold.
  have holds : (group.memberAt shutdown).shutdown.HeldAs
      (TaskWait.idle.subscription?.toList ++ (group.memberAt shutdown).held) :=
    (reachable_memberAt reachable shutdown).heldAs
  have does := Tasks.pollHeld_polled (group.memberAt shutdown).shutdown .idle
  have completed := (Tasks.ready_iff_finds does holds).2 ⟨_, .flagUp up⟩
  refine ⟨answer.trans (congrArg GroupOutcome.task completed), ?_⟩
  rw [after, Tasks.subscriptions_of_ready does holds completed]
  exact List.filter_eq_self.2 fun _ _ => rfl

end Polling

end ShutdownGroup

/-- After any steps of tasks, every handle of a shutdown counts the receivers that were
made there and not dropped and the waits there that have been polled, have not completed
and have not been dropped.  A poll completes a wait exactly if it finds the flag up, a
signal, or the notice that it has missed some; and whichever it is, the subscription of
that wait is ended, and no other one.  Nor is one left by a wait that is made and polled
when the flag is up. -/
theorem receiver_count_follows_holders (steps : List GroupStep) {handle shutdown : Nat}
    (known : (afterSteps steps).2.handles[handle]? = some shutdown) :
    let group := (afterSteps steps).1
    let ledger := (afterSteps steps).2
    let now := (group.memberAt shutdown).shutdown
    (group.step (.atHandle handle .count)).1 =
        .task (.number (ledger.openReceivers shutdown + ledger.runningWaits shutdown)) ∧
      (∀ wait held, group.waitAt? wait = some (shutdown, held) →
        let polled := group.step (.poll wait)
        let later := (polled.2.memberAt shutdown).shutdown
        (polled.1 = .task .ready ↔ ∃ reason, held.Finds now reason) ∧
          (polled.1 = .task .ready →
            later.subscriptions =
                now.subscriptions.filter (fun receiver => held.subscription? ≠ some receiver) ∧
              later.receiverCount + held.subscription?.toList.length = now.receiverCount)) ∧
      (now.isTriggered = true →
        let begun := group.step (.atHandle handle .wait)
        begun.1 = .task .ready ∧
          (begun.2.memberAt shutdown).shutdown.subscriptions = now.subscriptions) := by
  intro group ledger now
  have tells : ledger.Tells group := ReceiverLedger.tells_afterSteps steps
  have reachable : group.Reachable := reachable_afterSteps steps
  have given : group.handles[handle]? = some shutdown := by
    rw [← tells.handles]
    exact known
  have made : shutdown < group.members.length :=
    tells.known shutdown (List.mem_of_getElem? given)
  refine ⟨?_, fun wait held stands => ?_, fun up => ?_⟩
  · have counted := ShutdownGroup.stepMember_of_known made .count
    have tasks := ShutdownGroup.reachable_memberAt reachable shutdown
    simp only [ShutdownGroup.step, given, ShutdownGroup.stepHandle, counted, Tasks.step]
    rw [Tasks.receiverCount_eq tasks, tells.openReceivers_eq, tells.runningWaits_eq]
  · exact ⟨ShutdownGroup.poll_eq_ready_iff reachable stands,
      ShutdownGroup.released_of_poll_ready reachable stands⟩
  · exact ShutdownGroup.wait_of_flag_up reachable given made up

/-- Two waits are polled and a third is not when a clone triggers: the first finds the
signal, the second is overtaken by another trigger, and the third finds the flag up.
The receiver beside them is counted throughout. -/
theorem receiver_count_follows_holders_woken :
    let first : List GroupStep :=
      [.atHandle 0 .clone, .atHandle 0 .subscribe, .atHandle 0 .wait, .atHandle 1 .wait,
        .atHandle 0 .makeWait, .atHandle 1 .trigger]
    let later : List GroupStep := first ++ [.poll 0, .atHandle 0 .trigger]
    (afterSteps first).2.handles[1]? = some 0 ∧ (afterSteps later).2.handles[1]? = some 0 ∧
      ((afterSteps first).1.step (.atHandle 1 .count)).1 = .task (.number 3) ∧
      ((afterSteps first).1.step (.poll 0)).1 = .task .ready ∧
      ((afterSteps later).1.step (.atHandle 1 .count)).1 = .task (.number 2) ∧
      ((afterSteps later).1.step (.poll 1)).1 = .task .ready ∧
      ((afterSteps later).1.step (.poll 2)).1 = .task .ready ∧
      ((afterSteps later).1.step (.atHandle 0 .wait)).1 = .task .ready := by
  intro first later
  obtain ⟨counted, woken, _⟩ := @receiver_count_follows_holders first 1 0 rfl
  obtain ⟨countedLater, wokenLater, begun⟩ := @receiver_count_follows_holders later 1 0 rfl
  exact ⟨rfl, rfl, counted, (woken 0 (.running (.pending 1)) rfl).1.2 ⟨_, .signal rfl⟩,
    countedLater, (wokenLater 1 (.running (.pending 2)) rfl).1.2 ⟨_, .lagNotice rfl⟩,
    (wokenLater 2 .idle rfl).1.2 ⟨_, .flagUp rfl⟩, (begun rfl).1⟩

end WebHost
