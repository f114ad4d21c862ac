/-
Module: WebHost.Proofs.Shutdown.Operations
Purpose: Whole operations on a shutdown are runs of atomic steps, so that every
  history of its tasks is one of the interleavings.
Main exports:
  Tasks.atomic, Tasks.leads_of_step, Tasks.pollWait_answers_flag,
  ShutdownGroup.reachable_members, ShutdownGroup.poll_answers_flag
-/
import WebHost.Proofs.Shutdown.WakeUp
import WebHost.Shutdown.Group

namespace WebHost

/-! ### Runs of atomic steps -/

namespace AtomicTasks

theorem Leads.trans {first second third : AtomicTasks} (one : first.Leads second)
    (two : second.Leads third) : first.Leads third := by
  induction two with
  | refl => exact one
  | step leads step ih => exact ih.step step

/-- To trigger is to raise the flag and then to broadcast. -/
theorem leads_trigger (tasks : AtomicTasks) (call : Nat) (ready : tasks.calls call = .notBegun) :
    tasks.Leads (tasks.setCall call .completed tasks.shutdown.trigger) := by
  have raised := Leads.refl.step (Step.raise call ready)
  have sent := raised.step (.broadcast call (Function.update_self _ _ _))
  simpa [setCall, Shutdown.trigger] using sent

/-- To poll a wait for the first time is to subscribe and then to look at the
flag. -/
theorem leads_beginWait (tasks : AtomicTasks) (wait : Nat) (idle : tasks.waits wait = .idle) :
    tasks.Leads
      (tasks.setWait wait (.held tasks.shutdown.beginWait.1) tasks.shutdown.beginWait.2) := by
  have subscribed := Leads.refl.step (Step.waitSubscribes wait idle)
  have looked := subscribed.step (.waitLooks wait _ (Function.update_self _ _ _))
  simpa [setWait, Shutdown.beginWait] using looked

/-- A wait that stays where it is. -/
theorem setWait_of_same {tasks : AtomicTasks} {wait : Nat} {phase : WaitPhase}
    (same : tasks.waits wait = phase) : tasks.setWait wait phase tasks.shutdown = tasks := by
  subst same
  simp [setWait]

end AtomicTasks

/-! ### Tasks between two operations -/

namespace Tasks

/-- The tasks that operations on a new shutdown lead to. -/
inductive Reachable : Tasks → Prop where
  | initial : Reachable .initial
  | step {tasks : Tasks} (reachable : Reachable tasks) (made : TaskStep) :
      Reachable (tasks.step made).2

/-- How far a wait has come when none of its polls is under way. -/
def phaseOf : Option TaskWait → WaitPhase
  | none | some .idle => .idle
  | some (.running state) => .held state
  | some .dropped => .dropped

/-- The tasks of a shutdown at which some calls of trigger have been made, with
nothing half done. -/
def atomic (tasks : Tasks) (calls : Nat) : AtomicTasks :=
  { shutdown := tasks.shutdown
    calls := fun call => if call < calls then .completed else .notBegun
    waits := fun wait => phaseOf tasks.waits[wait]?
    receivers := fun receiver => tasks.receivers[receiver]?.join }

variable {tasks : Tasks}

/-- A call that has begun has also completed. -/
theorem completed_of_begun {calls : Nat} (begun : (tasks.atomic calls).Begun) :
    (tasks.atomic calls).Completed := by
  obtain ⟨call, begun⟩ := begun
  refine ⟨call, ?_⟩
  by_cases made : call < calls
  · exact if_pos made
  · exact absurd (if_neg made) begun

/-- A call of trigger from beginning to end. -/
theorem setCall_atomic (calls : Nat) (shutdown : Shutdown) :
    (tasks.atomic calls).setCall calls .completed shutdown =
      { tasks with shutdown := shutdown }.atomic (calls + 1) := by
  have counted : Function.update (tasks.atomic calls).calls calls .completed =
      fun call => if call < calls + 1 then .completed else .notBegun := by
    funext call
    by_cases own : call = calls
    · simp [own]
    · have same : call < calls + 1 ↔ call < calls := by omega
      simp [own, atomic, same]
  unfold AtomicTasks.setCall
  rw [counted]
  rfl

/-- A poll that puts a known wait at another point. -/
theorem setWait_atomic {wait : Nat} {before : TaskWait} (found : tasks.waits[wait]? = some before)
    (calls : Nat) (after : TaskWait) (shutdown : Shutdown) :
    (tasks.atomic calls).setWait wait (phaseOf (some after)) shutdown =
      { tasks with shutdown := shutdown, waits := tasks.waits.set wait after }.atomic calls := by
  have inside : wait < tasks.waits.length := (List.getElem?_eq_some_iff.1 found).1
  simp [AtomicTasks.setWait, atomic, slots_set phaseOf tasks.waits wait after inside]

/-- The first poll of a wait that is made for it. -/
theorem append_atomic (tasks : Tasks) (calls : Nat) (after : TaskWait) (shutdown : Shutdown) :
    (tasks.atomic calls).setWait tasks.waits.length (phaseOf (some after)) shutdown =
      { tasks with shutdown := shutdown, waits := tasks.waits ++ [after] }.atomic calls := by
  simp [AtomicTasks.setWait, atomic, slots_append phaseOf tasks.waits after]

theorem idle_of_new (tasks : Tasks) (calls : Nat) :
    (tasks.atomic calls).waits tasks.waits.length = .idle := by
  simp [atomic, phaseOf]

theorem atomic_of_found {wait : Nat} {held : TaskWait} (found : tasks.waits[wait]? = some held)
    (calls : Nat) : (tasks.atomic calls).waits wait = phaseOf (some held) := by
  simp [atomic, found]

/-- Polling a wait is a run of its steps. -/
theorem leads_pollHeld (calls : Nat) {wait : Nat} {held : TaskWait}
    (found : tasks.waits[wait]? = some held) :
    (tasks.atomic calls).Leads
      ((tasks.atomic calls).setWait wait (phaseOf (some (pollHeld tasks.shutdown held).2.1))
        (pollHeld tasks.shutdown held).2.2) := by
  have phase := atomic_of_found found calls
  cases held with
  | idle => exact AtomicTasks.leads_beginWait _ wait phase
  | dropped =>
      have same := AtomicTasks.setWait_of_same phase
      rw [pollHeld]
      exact same.symm ▸ .refl
  | running state =>
      cases state with
      | finished =>
          have same := AtomicTasks.setWait_of_same phase
          rw [pollHeld]
          exact same.symm ▸ .refl
      | pending receiver => exact AtomicTasks.Leads.refl.step (.waitReceives wait receiver phase)

/-- Dropping a wait is one atomic step. -/
theorem leads_dropHeld (calls : Nat) {wait : Nat} {held : TaskWait}
    (found : tasks.waits[wait]? = some held) :
    (tasks.atomic calls).Leads
      ((tasks.atomic calls).setWait wait .dropped (releaseWait tasks.shutdown held)) := by
  have released : releaseWait tasks.shutdown held =
      ((tasks.atomic calls).waits wait).subscription?.elim tasks.shutdown
        tasks.shutdown.release := by
    rw [atomic_of_found found calls]
    cases held with
    | idle => rfl
    | dropped => rfl
    | running state => cases state <;> rfl
  have dropping := @AtomicTasks.Step.dropWait (tasks.atomic calls) wait
  have made := AtomicTasks.Leads.refl.step dropping
  rwa [show (tasks.atomic calls).shutdown = tasks.shutdown from rfl, ← released] at made

theorem receivers_atomic_of_found (calls : Nat) {receiver : Nat} {subscription : ReceiverId}
    (found : tasks.receivers[receiver]? = some (some subscription)) :
    (tasks.atomic calls).receivers receiver = some subscription := by
  simp [atomic, found]

/-- Every operation of a task is a run of atomic steps. -/
theorem leads_of_step (tasks : Tasks) (calls : Nat) (made : TaskStep) :
    ∃ more, (tasks.atomic calls).Leads ((tasks.step made).2.atomic more) := by
  cases made with
  | subscribe =>
      have free : (tasks.atomic calls).receivers tasks.receivers.length = none := by simp [atomic]
      refine ⟨calls, ?_⟩
      have made := AtomicTasks.Leads.refl.step (.subscribe _ free)
      simpa [AtomicTasks.setReceiver, atomic, step, slots_append Option.join tasks.receivers]
        using made
  | trigger =>
      have ready : (tasks.atomic calls).calls calls = .notBegun := by simp [atomic]
      refine ⟨calls + 1, ?_⟩
      have made := AtomicTasks.leads_trigger _ calls ready
      rwa [setCall_atomic] at made
  | isTriggered => exact ⟨calls, .refl⟩
  | count => exact ⟨calls, .refl⟩
  | makeWait =>
      -- A wait that has not been polled is as good as one that has not been made.
      have same := AtomicTasks.setWait_of_same (idle_of_new tasks calls)
      have made := append_atomic tasks calls .idle tasks.shutdown
      exact ⟨calls, same.symm.trans made ▸ .refl⟩
  | beginWait =>
      refine ⟨calls, ?_⟩
      have begun := AtomicTasks.leads_beginWait _ _ (idle_of_new tasks calls)
      have made := append_atomic tasks calls (.running tasks.shutdown.beginWait.1)
        tasks.shutdown.beginWait.2
      exact made ▸ begun
  | pollWait wait =>
      refine ⟨calls, ?_⟩
      cases found : tasks.waits[wait]? with
      | none => simpa [step, found] using .refl
      | some held =>
          have polled := leads_pollHeld calls found
          rw [setWait_atomic found] at polled
          simpa [step, found] using polled
  | receive receiver =>
      refine ⟨calls, ?_⟩
      cases found : tasks.receivers[receiver]? with
      | none => simpa [step, found] using .refl
      | some place =>
          cases place with
          | none => simpa [step, found] using .refl
          | some subscription =>
              have held := receivers_atomic_of_found calls found
              have made := AtomicTasks.Leads.refl.step (.receive receiver subscription held)
              simpa [step, found, atomic] using made
  | dropReceiver receiver =>
      refine ⟨calls, ?_⟩
      cases found : tasks.receivers[receiver]? with
      | none => simpa [step, found] using .refl
      | some place =>
          cases place with
          | none => simpa [step, found] using .refl
          | some subscription =>
              have held := receivers_atomic_of_found calls found
              have inside : receiver < tasks.receivers.length :=
                (List.getElem?_eq_some_iff.1 found).1
              have made := AtomicTasks.Leads.refl.step (.dropReceiver receiver subscription held)
              simpa [step, found, atomic, AtomicTasks.setReceiver,
                slots_set Option.join tasks.receivers receiver none inside] using made
  | dropWait wait =>
      refine ⟨calls, ?_⟩
      cases found : tasks.waits[wait]? with
      | none => simpa [step, found] using .refl
      | some held =>
          have dropped := leads_dropHeld calls found
          rw [show WaitPhase.dropped = phaseOf (some .dropped) from rfl,
            setWait_atomic found] at dropped
          simpa [step, found] using dropped

/-- Every history of operations is one of the interleavings. -/
theorem Reachable.atomic (reachable : Reachable tasks) :
    ∃ calls, (tasks.atomic calls).Reachable := by
  induction reachable with
  | initial => exact ⟨0, .refl⟩
  | step reachable made ih =>
      obtain ⟨calls, leads⟩ := ih
      obtain ⟨more, further⟩ := leads_of_step _ calls made
      exact ⟨more, leads.trans further⟩

theorem waitOutcome_of_answer {state : Shutdown.WaitState}
    (ready : answerOf .pending state = .ready) : waitOutcome state = .ready := by
  cases state with
  | finished => rfl
  | pending receiver => cases ready

theorem waitOutcome_of_not_answer {state : Shutdown.WaitState}
    (pending : answerOf .pending state ≠ .ready) : waitOutcome state = .pending := by
  cases state with
  | finished => exact absurd rfl pending
  | pending receiver => rfl

/-- A task that polls its wait hears whether the shutdown has been triggered,
whenever the wait was begun and however many calls have come between. -/
theorem pollWait_answers_flag (reachable : Reachable tasks) {wait : Nat} {held : TaskWait}
    (found : tasks.waits[wait]? = some held) (alive : (phaseOf (some held)).IsAlive) :
    (tasks.step (.pollWait wait)).1 =
      if tasks.shutdown.isTriggered then .ready else .pending := by
  obtain ⟨calls, leads⟩ := reachable.atomic
  have invariant := AtomicTasks.reachable_invariant leads
  have polled : (tasks.step (.pollWait wait)).1 = (pollHeld tasks.shutdown held).1 := by
    simp [step, found]
  have phase := atomic_of_found found calls
  have flag : (tasks.atomic calls).shutdown.raised = tasks.shutdown.isTriggered := rfl
  rw [polled]
  cases held with
  | dropped => exact alive.elim
  | idle =>
      -- The first poll looks at the flag itself.
      cases up : tasks.shutdown.isTriggered with
      | true => exact congrArg waitOutcome (Shutdown.beginWait_raised up)
      | false => exact congrArg waitOutcome (Shutdown.beginWait_lowered up)
  | running state =>
      cases state with
      | finished => exact alive.elim
      | pending receiver =>
          -- A later poll hears of the flag by the messages that it has not seen.
          have received := AtomicTasks.Step.waitReceives wait receiver phase
          cases up : tasks.shutdown.isTriggered with
          | true =>
              have completed := completed_of_begun (invariant.flag.1 (flag.trans up))
              rcases AtomicTasks.advance_of_completed invariant completed received with
                ready | ⟨_, idle, _⟩
              · exact waitOutcome_of_answer ready
              · exact absurd (phase.symm.trans idle) nofun
          | false =>
              have quiet : ¬ (tasks.atomic calls).Begun := by
                intro begun
                exact absurd ((invariant.flag.2 begun).symm.trans (flag.trans up)) nofun
              have pending := AtomicTasks.advance_of_quiet invariant quiet received
              exact waitOutcome_of_not_answer pending

end Tasks

/-! ### Groups of shutdowns -/

namespace ShutdownGroup

/-- The groups that steps of tasks lead to. -/
inductive Reachable : ShutdownGroup → Prop where
  | initial : Reachable .initial
  | step {group : ShutdownGroup} (reachable : Reachable group) (made : GroupStep) :
      Reachable (group.step made).2

/-- The members of a group have come about each by steps of its own. -/
def MembersReachable (group : ShutdownGroup) : Prop := ∀ tasks ∈ group.members, tasks.Reachable

variable {group : ShutdownGroup}

theorem stepMember_members (reachable : group.MembersReachable) (member : Nat) (made : TaskStep) :
    (group.stepMember member made).2.MembersReachable := by
  unfold stepMember
  cases found : group.members[member]? with
  | none => exact reachable
  | some tasks =>
      intro other among
      rcases List.mem_or_eq_of_mem_set among with before | rfl
      · exact reachable other before
      · exact .step (reachable tasks (List.mem_of_getElem? found)) made

theorem stepHandle_members (reachable : group.MembersReachable) (member : Nat)
    (made : HandleStep) : (group.stepHandle member made).2.MembersReachable := by
  cases made with
  | clone => exact reachable
  | trigger => exact stepMember_members reachable member .trigger
  | isTriggered => exact stepMember_members reachable member .isTriggered
  | count => exact stepMember_members reachable member .count
  | subscribe => exact stepMember_members reachable member .subscribe
  | makeWait => exact stepMember_members reachable member .makeWait
  | wait => exact stepMember_members reachable member .beginWait

theorem step_members (reachable : group.MembersReachable) (made : GroupStep) :
    (group.step made).2.MembersReachable := by
  cases made with
  | new =>
      intro tasks among
      rcases List.mem_append.1 among with before | new
      · exact reachable tasks before
      · rw [List.mem_singleton.1 new]
        exact .initial
  | atHandle handle made =>
      cases found : group.handles[handle]? with
      | none => simpa [step, found] using reachable
      | some member => simpa [step, found] using stepHandle_members reachable member made
  | poll wait | dropWait wait =>
      cases found : group.waits[wait]? with
      | none => simpa [step, stepWait, found] using reachable
      | some place =>
          simpa [step, stepWait, found] using stepMember_members reachable place.1 _
  | receive receiver | dropReceiver receiver =>
      cases found : group.receivers[receiver]? with
      | none => simpa [step, stepReceiver, found] using reachable
      | some place =>
          simpa [step, stepReceiver, found] using stepMember_members reachable place.1 _

theorem reachable_members (reachable : group.Reachable) : group.MembersReachable := by
  induction reachable with
  | initial =>
      intro tasks among
      rw [List.mem_singleton.1 among]
      exact .initial
  | step reachable made ih => exact step_members ih made

/-- A task that polls its wait hears whether the shutdown of that wait has been
triggered, by whichever handle. -/
theorem poll_answers_flag (reachable : group.Reachable) {wait member number : Nat} {tasks : Tasks}
    {held : TaskWait} (place : group.waits[wait]? = some (member, number))
    (known : group.members[member]? = some tasks) (found : tasks.waits[number]? = some held)
    (alive : (Tasks.phaseOf (some held)).IsAlive) :
    (group.step (.poll wait)).1 =
      .task (if tasks.shutdown.isTriggered then .ready else .pending) := by
  have own := reachable_members reachable tasks (List.mem_of_getElem? known)
  have polled : (group.step (.poll wait)).1 = .task (tasks.step (.pollWait number)).1 := by
    simp [step, stepWait, place, stepMember, known]
  rw [polled, Tasks.pollWait_answers_flag own found alive]

end ShutdownGroup

end WebHost
