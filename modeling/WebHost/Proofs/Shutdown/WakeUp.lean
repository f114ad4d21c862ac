/-
Module: WebHost.Proofs.Shutdown.WakeUp
Purpose: A shutdown wakes everything that waits for it, and wakes nothing
  before it is triggered.
Main exports:
  AtomicTasks.Owned, AtomicTasks.Invariant, AtomicTasks.step_invariant,
  AtomicTasks.readyAtNextPoll_of_completed, shutdown_wakes_every_wait
-/
import WebHost.Proofs.Shutdown.Channel
import WebHost.Proofs.Shutdown.Interleaving

namespace WebHost

namespace AtomicTasks

open Shutdown

/-!
A wait that has seen the flag down had subscribed before, so the broadcast of
every call that raises the flag later finds its subscription.  That is the
invariant which carries the proof: once a call has completed, a pending wait has
news.  Beside it stands who owns which subscription, for no task ends or moves
the subscription of another one.
-/

/-! ### Owners of subscriptions -/

/-- A task that can hold a subscription. -/
inductive Holder where
  | wait (number : Nat)
  | receiver (number : Nat)
deriving Repr, DecidableEq

/-- The subscription that a task holds. -/
def heldBy (tasks : AtomicTasks) : Holder → Option ReceiverId
  | .wait number => (tasks.waits number).subscription?
  | .receiver number => tasks.receivers number

/-- Every subscription that a task holds is one of the channel, and no other task
holds it. -/
structure Owned (shutdown : Shutdown) (heldBy : Holder → Option ReceiverId) : Prop where
  consistent : shutdown.Consistent
  subscribed : ∀ holder receiver, heldBy holder = some receiver →
    (shutdown.doneWith? receiver).isSome = true
  apart : ∀ one other receiver, heldBy one = some receiver → heldBy other = some receiver →
    one = other

namespace Owned

variable {shutdown after : Shutdown} {heldBy : Holder → Option ReceiverId} {holder : Holder}
  {receiver : ReceiverId}

/-- What subscriptions are done with does not matter to their owners. -/
theorem of_same (owned : Owned shutdown heldBy) (consistent : after.Consistent)
    (same : ∀ receiver, (after.doneWith? receiver).isSome = (shutdown.doneWith? receiver).isSome) :
    Owned after heldBy where
  consistent := consistent
  subscribed := fun holder receiver held => by
    rw [same]
    exact owned.subscribed holder receiver held
  apart := owned.apart

theorem broadcast (owned : Owned shutdown heldBy) : Owned shutdown.broadcast heldBy :=
  owned.of_same (consistent_broadcast owned.consistent) fun _ => by rw [doneWith?_broadcast]

theorem receive (owned : Owned shutdown heldBy) (receiver : ReceiverId) :
    Owned (shutdown.receive receiver).2 heldBy := by
  obtain ⟨same, own⟩ := shutdown.receive_sameBut receiver
  refine owned.of_same (consistent_receive owned.consistent receiver) fun other => ?_
  by_cases here : other = receiver
  · rw [here, own]
  · rw [same.others other here]

/-- The number of the next subscription is not held by any task. -/
theorem ne_nextReceiver (owned : Owned shutdown heldBy) (held : heldBy holder = some receiver) :
    receiver ≠ shutdown.nextReceiver := by
  obtain ⟨done, found⟩ := Option.isSome_iff_exists.1 (owned.subscribed holder receiver held)
  exact Nat.ne_of_lt (owned.consistent receiver done found).1

/-- A new subscription belongs to the task that asked for it. -/
theorem subscribe (owned : Owned shutdown heldBy) (holder : Holder) :
    Owned shutdown.subscribe.2
      (Function.update heldBy holder (some shutdown.subscribe.1)) := by
  have cases_held : ∀ other receiver,
      Function.update heldBy holder (some shutdown.subscribe.1) other = some receiver →
        (other = holder ∧ receiver = shutdown.nextReceiver) ∨ heldBy other = some receiver := by
    intro other receiver held
    by_cases own : other = holder
    · subst own
      rw [Function.update_self] at held
      exact .inl ⟨rfl, (Option.some.inj held).symm⟩
    · rw [Function.update_of_ne own] at held
      exact .inr held
  refine ⟨consistent_subscribe owned.consistent, ?_, ?_⟩
  · intro other receiver held
    rw [doneWith?_subscribe owned.consistent]
    rcases cases_held other receiver held with ⟨_, rfl⟩ | before
    · simp
    · rw [if_neg (owned.ne_nextReceiver before)]
      exact owned.subscribed other receiver before
  · intro one other receiver first second
    rcases cases_held one receiver first with ⟨rfl, fresh⟩ | before
    · rcases cases_held other receiver second with ⟨rfl, _⟩ | earlier
      · rfl
      · exact absurd fresh (owned.ne_nextReceiver earlier)
    · rcases cases_held other receiver second with ⟨_, fresh⟩ | earlier
      · exact absurd fresh (owned.ne_nextReceiver before)
      · exact owned.apart one other receiver before earlier

/-- A task ends its own subscription and no other. -/
theorem release (owned : Owned shutdown heldBy) (held : heldBy holder = some receiver) :
    Owned (shutdown.release receiver) (Function.update heldBy holder none) := by
  have kept : ∀ other subscription, Function.update heldBy holder none other = some subscription →
      heldBy other = some subscription ∧ subscription ≠ receiver := by
    intro other subscription still
    by_cases own : other = holder
    · subst own
      rw [Function.update_self] at still
      cases still
    · rw [Function.update_of_ne own] at still
      refine ⟨still, ?_⟩
      rintro rfl
      exact own (owned.apart other holder subscription still held)
  refine ⟨consistent_release owned.consistent receiver, ?_, ?_⟩
  · intro other subscription still
    obtain ⟨before, elsewhere⟩ := kept other subscription still
    rw [doneWith?_release, if_neg elsewhere]
    exact owned.subscribed other subscription before
  · intro one other subscription first second
    exact owned.apart one other subscription (kept one subscription first).1
      (kept other subscription second).1

/-- A task that goes on with what it holds changes nothing. -/
theorem keep (owned : Owned shutdown heldBy) {subscription : Option ReceiverId}
    (held : heldBy holder = subscription) :
    Owned shutdown (Function.update heldBy holder subscription) := by
  rw [← held, Function.update_eq_self]
  exact owned

end Owned

section Holders

variable (tasks : AtomicTasks)

theorem heldBy_setWait (wait : Nat) (phase : WaitPhase) (shutdown : Shutdown) :
    (tasks.setWait wait phase shutdown).heldBy =
      Function.update tasks.heldBy (.wait wait) phase.subscription? := by
  funext holder
  cases holder with
  | wait number =>
      by_cases own : number = wait
      · simp [own, heldBy, setWait]
      · simp [own, heldBy, setWait]
  | receiver number => simp [heldBy, setWait]

theorem heldBy_setReceiver (receiver : Nat) (subscription : Option ReceiverId)
    (shutdown : Shutdown) :
    (tasks.setReceiver receiver subscription shutdown).heldBy =
      Function.update tasks.heldBy (.receiver receiver) subscription := by
  funext holder
  cases holder with
  | wait number => simp [heldBy, setReceiver]
  | receiver number =>
      by_cases own : number = receiver
      · simp [own, heldBy, setReceiver]
      · simp [own, heldBy, setReceiver]

end Holders

/-! ### The invariant -/

/-- What is true of a shutdown and its tasks between any two steps. -/
structure Invariant (tasks : AtomicTasks) : Prop where
  owned : Owned tasks.shutdown tasks.heldBy
  flag : tasks.shutdown.raised = true ↔ tasks.Begun
  quiet : 0 < tasks.shutdown.sent → tasks.Begun
  signalled : tasks.Completed → ∀ wait receiver done,
    tasks.waits wait = .held (.pending receiver) →
    tasks.shutdown.doneWith? receiver = some done → done < tasks.shutdown.sent
  ended : ∀ wait, tasks.waits wait = .held .finished → tasks.Begun

variable {tasks next : AtomicTasks} {act : AtomicAct}

theorem Completed.begun (completed : tasks.Completed) : tasks.Begun := by
  obtain ⟨call, same⟩ := completed
  exact ⟨call, by rw [same]; nofun⟩

theorem initial_invariant : Invariant .initial where
  owned := ⟨nofun, nofun, nofun⟩
  flag := ⟨nofun, fun ⟨_, begun⟩ => absurd rfl begun⟩
  quiet := nofun
  signalled := nofun
  ended := nofun

namespace Invariant

/-- The flag is down as long as no call has begun. -/
theorem flag_down (invariant : tasks.Invariant) (quiet : ¬ tasks.Begun) :
    tasks.shutdown.raised = false :=
  Bool.eq_false_iff.2 fun up => quiet (invariant.flag.1 up)

/-- A subscription that a task holds is done with some number of messages. -/
theorem exists_doneWith? (invariant : tasks.Invariant) {holder : Holder} {receiver : ReceiverId}
    (held : tasks.heldBy holder = some receiver) :
    ∃ done, tasks.shutdown.doneWith? receiver = some done :=
  Option.isSome_iff_exists.1 (invariant.owned.subscribed holder receiver held)

/-- A step of one holder that leaves the calls, the flag and the messages alone,
and the subscriptions of all other holders, keeps the invariant if it keeps what
that says about this holder. -/
theorem of_own_step (invariant : tasks.Invariant) (holder : Holder)
    (owned : Owned next.shutdown next.heldBy) (calls : next.calls = tasks.calls)
    (raised : next.shutdown.raised = tasks.shutdown.raised)
    (sent : next.shutdown.sent = tasks.shutdown.sent)
    (others : ∀ other receiver, other ≠ holder → tasks.heldBy other = some receiver →
      next.shutdown.doneWith? receiver = tasks.shutdown.doneWith? receiver)
    (waits : ∀ wait, .wait wait ≠ holder → next.waits wait = tasks.waits wait)
    (finished : ∀ wait, .wait wait = holder → next.waits wait = .held .finished → tasks.Begun)
    (pending : ∀ wait receiver, .wait wait = holder →
      next.waits wait = .held (.pending receiver) → ¬ tasks.Completed) :
    next.Invariant := by
  have begun : next.Begun ↔ tasks.Begun := by rw [Begun, Begun, calls]
  have completed : next.Completed ↔ tasks.Completed := by rw [Completed, Completed, calls]
  refine ⟨owned, ?_, ?_, ?_, ?_⟩
  · rw [raised, begun]
    exact invariant.flag
  · rw [sent, begun]
    exact invariant.quiet
  · intro call wait receiver done waiting found
    rw [completed] at call
    by_cases mine : .wait wait = holder
    · exact absurd call (pending wait receiver mine waiting)
    · rw [waits wait mine] at waiting
      have held : tasks.heldBy (.wait wait) = some receiver := by
        simp [heldBy, waiting, WaitPhase.subscription?]
      rw [others (.wait wait) receiver mine held] at found
      rw [sent]
      exact invariant.signalled call wait receiver done waiting found
  · intro wait ended
    rw [begun]
    by_cases mine : .wait wait = holder
    · exact finished wait mine ended
    · rw [waits wait mine] at ended
      exact invariant.ended wait ended

/-- A change of one subscription does not reach the other holders. -/
theorem others_of_sameBut (invariant : tasks.Invariant) {holder : Holder} {receiver : ReceiverId}
    (held : tasks.heldBy holder = some receiver) {after : Shutdown}
    (same : SameBut receiver tasks.shutdown after) (other : Holder) (subscription : ReceiverId)
    (apart : other ≠ holder) (elsewhere : tasks.heldBy other = some subscription) :
    after.doneWith? subscription = tasks.shutdown.doneWith? subscription := by
  refine same.others subscription ?_
  rintro rfl
  exact apart (invariant.owned.apart other holder subscription elsewhere held)

/-- A new subscription does not reach the other holders. -/
theorem others_of_subscribe (invariant : tasks.Invariant) (other : Holder)
    (subscription : ReceiverId) (held : tasks.heldBy other = some subscription) :
    tasks.shutdown.subscribe.2.doneWith? subscription =
      tasks.shutdown.doneWith? subscription := by
  rw [doneWith?_subscribe invariant.owned.consistent,
    if_neg (invariant.owned.ne_nextReceiver held)]

theorem raise (invariant : tasks.Invariant) {call : Nat}
    (ready : tasks.calls call = .notBegun) :
    (tasks.setCall call .raised tasks.shutdown.raise).Invariant := by
  have begun : (tasks.setCall call .raised tasks.shutdown.raise).Begun :=
    ⟨call, by simp [setCall]⟩
  have completed : (tasks.setCall call .raised tasks.shutdown.raise).Completed →
      tasks.Completed := by
    rintro ⟨other, done⟩
    by_cases own : other = call
    · subst own
      simp [setCall] at done
    · exact ⟨other, by simpa [setCall, own] using done⟩
  exact ⟨invariant.owned.of_same invariant.owned.consistent fun _ => rfl, ⟨fun _ => begun,
    fun _ => rfl⟩, fun _ => begun, fun call => invariant.signalled (completed call),
    fun _ _ => begun⟩

theorem broadcast (invariant : tasks.Invariant) {call : Nat}
    (raised : tasks.calls call = .raised) :
    (tasks.setCall call .completed tasks.shutdown.broadcast).Invariant := by
  have before : tasks.Begun := ⟨call, by rw [raised]; nofun⟩
  have begun : (tasks.setCall call .completed tasks.shutdown.broadcast).Begun :=
    ⟨call, by simp [setCall]⟩
  refine ⟨invariant.owned.broadcast, ⟨fun _ => begun, fun _ => ?_⟩, fun _ => begun, ?_,
    fun _ _ => begun⟩
  · exact raised_broadcast.trans (invariant.flag.2 before)
  · -- The broadcast finds the subscription of every pending wait.
    intro _ wait receiver done _ found
    have subscribed : tasks.shutdown.doneWith? receiver = some done :=
      doneWith?_broadcast.symm.trans found
    show done < tasks.shutdown.broadcast.sent
    rw [sent_broadcast subscribed]
    exact Nat.lt_succ_of_le (invariant.owned.consistent receiver done subscribed).2

/-- A wait that comes to another phase keeps the invariant if that phase is as it
has to be. -/
theorem setWait (invariant : tasks.Invariant) {wait : Nat} {phase : WaitPhase}
    {shutdown : Shutdown}
    (owned : Owned shutdown (Function.update tasks.heldBy (.wait wait) phase.subscription?))
    (raised : shutdown.raised = tasks.shutdown.raised)
    (sent : shutdown.sent = tasks.shutdown.sent)
    (others : ∀ other receiver, other ≠ .wait wait → tasks.heldBy other = some receiver →
      shutdown.doneWith? receiver = tasks.shutdown.doneWith? receiver)
    (finished : phase = .held .finished → tasks.Begun)
    (pending : ∀ receiver, phase = .held (.pending receiver) → ¬ tasks.Completed) :
    (tasks.setWait wait phase shutdown).Invariant := by
  have own : ∀ other, Holder.wait other = .wait wait →
      (tasks.setWait wait phase shutdown).waits other = phase := by
    rintro other ⟨⟩
    exact Function.update_self _ _ _
  refine invariant.of_own_step (.wait wait) ?_ rfl raised sent others ?_ ?_ ?_
  · rw [heldBy_setWait]
    exact owned
  · intro other apart
    exact Function.update_of_ne (fun same => apart (congrArg Holder.wait same)) _ _
  · intro other mine ended
    exact finished ((own other mine).symm.trans ended)
  · intro other receiver mine waiting
    exact pending receiver ((own other mine).symm.trans waiting)

theorem waitLooks (invariant : tasks.Invariant) {wait : Nat} {receiver : ReceiverId}
    (subscribed : tasks.waits wait = .subscribed receiver) :
    (tasks.setWait wait (.held (tasks.shutdown.checkFlag receiver).1)
      (tasks.shutdown.checkFlag receiver).2).Invariant := by
  have held : tasks.heldBy (.wait wait) = some receiver := by
    simp [heldBy, subscribed, WaitPhase.subscription?]
  cases flag : tasks.shutdown.raised with
  | true =>
      rw [checkFlag_raised flag]
      exact invariant.setWait (invariant.owned.release held) rfl rfl
        (invariant.others_of_sameBut held (sameBut_release _ _)) (fun _ => invariant.flag.1 flag)
        nofun
  | false =>
      -- No call has raised the flag, so none has completed.
      rw [checkFlag_lowered flag]
      have quiet : ¬ tasks.Begun := fun begun => by simp [invariant.flag.2 begun] at flag
      exact invariant.setWait (invariant.owned.keep held) rfl rfl (fun _ _ _ _ => rfl) nofun
        (fun _ _ completed => quiet completed.begun)

theorem waitReceives (invariant : tasks.Invariant) {wait : Nat} {receiver : ReceiverId}
    (pending : tasks.waits wait = .held (.pending receiver)) :
    (tasks.setWait wait (.held (tasks.shutdown.pollWait (.pending receiver)).1)
      (tasks.shutdown.pollWait (.pending receiver)).2).Invariant := by
  have held : tasks.heldBy (.wait wait) = some receiver := by
    simp [heldBy, pending, WaitPhase.subscription?]
  obtain ⟨done, found⟩ := invariant.exists_doneWith? held
  by_cases news : done < tasks.shutdown.sent
  · rw [pollWait_of_behind found news]
    have same := receive_release_sameBut tasks.shutdown receiver
    exact invariant.setWait ((invariant.owned.receive receiver).release held) same.raised same.sent
      (invariant.others_of_sameBut held same)
      (fun _ => invariant.quiet (Nat.lt_of_le_of_lt (Nat.zero_le done) news)) nofun
  · rw [pollWait_of_caughtUp found (Nat.not_lt.1 news)]
    have unchanged : tasks.setWait wait (.held (.pending receiver)) tasks.shutdown = tasks := by
      simp [AtomicTasks.setWait, ← pending]
    rw [unchanged]
    exact invariant

theorem dropWait (invariant : tasks.Invariant) (wait : Nat) :
    (tasks.setWait wait .dropped
      ((tasks.waits wait).subscription?.elim tasks.shutdown tasks.shutdown.release)).Invariant := by
  cases subscription : (tasks.waits wait).subscription? with
  | none =>
      exact invariant.setWait (invariant.owned.keep subscription) rfl rfl (fun _ _ _ _ => rfl)
        nofun nofun
  | some receiver =>
      have held : tasks.heldBy (.wait wait) = some receiver := subscription
      exact invariant.setWait (invariant.owned.release held) rfl rfl
        (invariant.others_of_sameBut held (sameBut_release _ _)) nofun nofun

end Invariant

/-- Every atomic step keeps the invariant. -/
theorem step_invariant (invariant : tasks.Invariant) (step : Step tasks act next) :
    next.Invariant := by
  cases step with
  | raise call ready => exact invariant.raise ready
  | broadcast call raised => exact invariant.broadcast raised
  | subscribe receiver free =>
      refine invariant.of_own_step (.receiver receiver) ?_ rfl rfl rfl
        (fun other subscription _ => invariant.others_of_subscribe other subscription)
        (fun _ _ => rfl) nofun nofun
      rw [heldBy_setReceiver]
      exact invariant.owned.subscribe _
  | receive receiver subscription found =>
      have held : tasks.heldBy (.receiver receiver) = some subscription := found
      obtain ⟨same, _⟩ := tasks.shutdown.receive_sameBut subscription
      exact invariant.of_own_step (.receiver receiver) (invariant.owned.receive subscription) rfl
        same.raised same.sent (invariant.others_of_sameBut held same) (fun _ _ => rfl) nofun nofun
  | dropReceiver receiver subscription found =>
      have held : tasks.heldBy (.receiver receiver) = some subscription := found
      refine invariant.of_own_step (.receiver receiver) ?_ rfl rfl rfl
        (invariant.others_of_sameBut held (sameBut_release _ _)) (fun _ _ => rfl) nofun nofun
      rw [heldBy_setReceiver]
      exact invariant.owned.release held
  | waitSubscribes wait idle =>
      exact invariant.setWait (invariant.owned.subscribe _) rfl rfl
        (fun other subscription _ => invariant.others_of_subscribe other subscription) nofun nofun
  | waitLooks wait receiver subscribed => exact invariant.waitLooks subscribed
  | waitReceives wait receiver pending => exact invariant.waitReceives pending
  | dropWait wait => exact invariant.dropWait wait

theorem reachable_invariant (reachable : tasks.Reachable) : tasks.Invariant := by
  induction reachable with
  | refl => exact initial_invariant
  | step leads step ih => exact step_invariant ih step

/-! ### What steps leave behind -/

/-- A call stays where it is, or makes the next of its two steps. -/
theorem Step.calls_cases (step : Step tasks act next) (call : Nat) :
    next.calls call = tasks.calls call ∨
      (tasks.calls call = .notBegun ∧ next.calls call = .raised) ∨
      (tasks.calls call = .raised ∧ next.calls call = .completed) := by
  cases step with
  | raise other ready =>
      by_cases own : call = other
      · subst own
        exact .inr (.inl ⟨ready, Function.update_self _ _ _⟩)
      · exact .inl (Function.update_of_ne own _ _)
  | broadcast other raised =>
      by_cases own : call = other
      · subst own
        exact .inr (.inr ⟨raised, Function.update_self _ _ _⟩)
      · exact .inl (Function.update_of_ne own _ _)
  | subscribe receiver free => exact .inl rfl
  | receive receiver subscription held => exact .inl rfl
  | dropReceiver receiver subscription held => exact .inl rfl
  | waitSubscribes wait idle => exact .inl rfl
  | waitLooks wait receiver subscribed => exact .inl rfl
  | waitReceives wait receiver pending => exact .inl rfl
  | dropWait wait => exact .inl rfl

theorem Step.begun (step : Step tasks act next) (begun : tasks.Begun) : next.Begun := by
  obtain ⟨call, before⟩ := begun
  refine ⟨call, ?_⟩
  rcases step.calls_cases call with same | ⟨_, raised⟩ | ⟨_, completed⟩
  · rwa [same]
  · rw [raised]
    nofun
  · rw [completed]
    nofun

theorem Step.completed (step : Step tasks act next) (completed : tasks.Completed) :
    next.Completed := by
  obtain ⟨call, before⟩ := completed
  refine ⟨call, ?_⟩
  rcases step.calls_cases call with same | ⟨notBegun, _⟩ | ⟨_, after⟩
  · rw [same, before]
  · rw [before] at notBegun
    cases notBegun
  · exact after

/-- A wait stays where it is while other tasks make their steps. -/
theorem Step.waits_of_other (step : Step tasks act next) {wait : Nat} (other : ¬ act.IsOf wait) :
    next.waits wait = tasks.waits wait := by
  cases step with
  | raise call ready => rfl
  | broadcast call raised => rfl
  | subscribe receiver free => rfl
  | receive receiver subscription held => rfl
  | dropReceiver receiver subscription held => rfl
  | waitSubscribes own idle => exact Function.update_of_ne (Ne.symm other) _ _
  | waitLooks own receiver subscribed => exact Function.update_of_ne (Ne.symm other) _ _
  | waitReceives own receiver pending => exact Function.update_of_ne (Ne.symm other) _ _
  | dropWait own => exact Function.update_of_ne (Ne.symm other) _ _

/-! ### Waits of a triggered shutdown -/

/-- A wait that is alive can make a step. -/
theorem exists_step_of_isAlive {wait : Nat} (alive : (tasks.waits wait).IsAlive) :
    ∃ answer next, Step tasks (.advance wait answer) next := by
  cases phase : tasks.waits wait with
  | idle => exact ⟨_, _, .waitSubscribes wait phase⟩
  | subscribed receiver => exact ⟨_, _, .waitLooks wait receiver phase⟩
  | held state =>
      cases state with
      | finished => simp [phase, WaitPhase.IsAlive] at alive
      | pending receiver => exact ⟨_, _, .waitReceives wait receiver phase⟩
  | dropped => simp [phase, WaitPhase.IsAlive] at alive

/-- Once a call has completed, the step of a wait answers `ready`, unless it is
the first one of all, by which the wait subscribes. -/
theorem advance_of_completed (invariant : tasks.Invariant) (completed : tasks.Completed)
    {wait : Nat} {answer : PollAnswer} (step : Step tasks (.advance wait answer) next) :
    answer = .ready ∨ (answer = .goesOn ∧ tasks.waits wait = .idle ∧
      ∃ receiver, next.waits wait = .subscribed receiver) := by
  cases step with
  | waitSubscribes _ idle => exact .inr ⟨rfl, idle, _, Function.update_self _ _ _⟩
  | waitLooks _ receiver subscribed =>
      rw [checkFlag_raised (invariant.flag.2 completed.begun)]
      exact .inl rfl
  | waitReceives _ receiver pending =>
      have held : tasks.heldBy (.wait wait) = some receiver := by
        simp [heldBy, pending, WaitPhase.subscription?]
      obtain ⟨done, found⟩ := invariant.exists_doneWith? held
      have news := invariant.signalled completed wait receiver done pending found
      rw [pollWait_of_behind found news]
      exact .inl rfl

/-- Before any call has begun, no step of a wait answers `ready`. -/
theorem advance_of_quiet (invariant : tasks.Invariant) (quiet : ¬ tasks.Begun)
    {wait : Nat} {answer : PollAnswer} (step : Step tasks (.advance wait answer) next) :
    answer ≠ .ready := by
  cases step with
  | waitSubscribes _ idle => nofun
  | waitLooks _ receiver subscribed =>
      rw [checkFlag_lowered (invariant.flag_down quiet)]
      nofun
  | waitReceives _ receiver pending =>
      have held : tasks.heldBy (.wait wait) = some receiver := by
        simp [heldBy, pending, WaitPhase.subscription?]
      obtain ⟨done, found⟩ := invariant.exists_doneWith? held
      have unsent : ¬ 0 < tasks.shutdown.sent := fun sent => quiet (invariant.quiet sent)
      rw [pollWait_of_caughtUp found (Nat.le_trans (Nat.not_lt.1 unsent) (Nat.zero_le done))]
      nofun

/-- What other tasks do in the meantime changes neither that a call has completed
nor how far a wait has come. -/
theorem Meanwhile.keeps {wait : Nat} {later : AtomicTasks} (meanwhile : Meanwhile wait tasks later)
    (invariant : tasks.Invariant) (completed : tasks.Completed) :
    later.Invariant ∧ later.Completed ∧ later.waits wait = tasks.waits wait := by
  induction meanwhile with
  | refl => exact ⟨invariant, completed, rfl⟩
  | step before step other ih =>
      obtain ⟨kept, still, same⟩ := ih
      exact ⟨step_invariant kept step, step.completed still,
        (step.waits_of_other other).trans same⟩

section Completed

variable {wait : Nat} {later : AtomicTasks}

/-- A wait that is alive can make its step, whatever other tasks do before. -/
theorem Meanwhile.exists_step (meanwhile : Meanwhile wait tasks later)
    (invariant : tasks.Invariant) (completed : tasks.Completed)
    (alive : (tasks.waits wait).IsAlive) :
    ∃ answer next, Step later (.advance wait answer) next := by
  obtain ⟨_, _, same⟩ := meanwhile.keeps invariant completed
  rw [← same] at alive
  exact exists_step_of_isAlive alive

theorem Meanwhile.answer_ne_pending (meanwhile : Meanwhile wait tasks later)
    (invariant : tasks.Invariant) (completed : tasks.Completed) {answer : PollAnswer}
    (step : Step later (.advance wait answer) next) : answer ≠ .pending := by
  obtain ⟨kept, still, _⟩ := meanwhile.keeps invariant completed
  rcases advance_of_completed kept still step with ready | ⟨goesOn, _⟩
  · rw [ready]
    nofun
  · rw [goesOn]
    nofun

/-- A poll that goes on has just subscribed. -/
theorem Meanwhile.subscribes_of_goesOn (meanwhile : Meanwhile wait tasks later)
    (invariant : tasks.Invariant) (completed : tasks.Completed)
    (step : Step later (.advance wait .goesOn) next) :
    tasks.waits wait = .idle ∧ ∃ receiver, next.waits wait = .subscribed receiver := by
  obtain ⟨kept, still, same⟩ := meanwhile.keeps invariant completed
  rcases advance_of_completed kept still step with ready | ⟨_, idle, subscribed⟩
  · cases ready
  · exact ⟨same.symm.trans idle, subscribed⟩

/-- A wait that has subscribed is ready at its next step. -/
theorem readyAtNextPoll_of_subscribed (invariant : tasks.Invariant)
    (completed : tasks.Completed) (alive : (tasks.waits wait).IsAlive)
    (subscribed : tasks.waits wait ≠ .idle) : ReadyAtNextPoll wait tasks := by
  refine .intro tasks ?_ ?_ ?_
  · exact fun later meanwhile => meanwhile.exists_step invariant completed alive
  · exact fun later answer next meanwhile => meanwhile.answer_ne_pending invariant completed
  · intro later next meanwhile step
    exact absurd (meanwhile.subscribes_of_goesOn invariant completed step).1 subscribed

/-- A wait that is alive is ready at its next step if it has subscribed, and at
the one after it if it has not even begun. -/
theorem readyAtNextPoll_of_completed (invariant : tasks.Invariant)
    (completed : tasks.Completed) (alive : (tasks.waits wait).IsAlive) :
    ReadyAtNextPoll wait tasks := by
  refine .intro tasks ?_ ?_ ?_
  · exact fun later meanwhile => meanwhile.exists_step invariant completed alive
  · exact fun later answer next meanwhile => meanwhile.answer_ne_pending invariant completed
  · intro later next meanwhile step
    obtain ⟨kept, still, _⟩ := meanwhile.keeps invariant completed
    obtain ⟨_, receiver, subscribed⟩ := meanwhile.subscribes_of_goesOn invariant completed step
    refine readyAtNextPoll_of_subscribed (step_invariant kept step) (step.completed still) ?_ ?_
    · rw [subscribed]
      trivial
    · rw [subscribed]
      nofun

end Completed

end AtomicTasks

/-! ### Handles of one shutdown -/

namespace AtomicGroup

variable {group next later : AtomicGroup} {handle member : Nat}

/-- A shutdown of a group is as it was, or made, or has come one atomic step
further. -/
theorem Step.shutdowns_cases (step : Step group next) (member : Nat) :
    next.shutdowns member = group.shutdowns member ∨
      (next.shutdowns member = .initial ∧ ∀ other, group.handles other ≠ some member) ∨
      ∃ act, AtomicTasks.Step (group.shutdowns member) act (next.shutdowns member) := by
  cases step with
  | create handle made free unused =>
      by_cases own : member = made
      · subst own
        exact .inr (.inl ⟨Function.update_self _ _ _, unused⟩)
      · exact .inl (Function.update_of_ne own _ _)
  | clone handle copy shared known free => exact .inl rfl
  | act handle shared act after known step =>
      by_cases own : member = shared
      · subst own
        exact .inr (.inr ⟨act, by simpa using step⟩)
      · exact .inl (Function.update_of_ne own _ _)

/-- A handle stands for the same shutdown for ever. -/
theorem Step.handles_of_known (step : Step group next)
    (known : group.handles handle = some member) : next.handles handle = some member := by
  have taken : ∀ {other : Nat}, group.handles other = none → handle ≠ other := by
    rintro other free rfl
    rw [known] at free
    cases free
  cases step with
  | create other made free unused => exact (Function.update_of_ne (taken free) _ _).trans known
  | clone other copy shared _ free => exact (Function.update_of_ne (taken free) _ _).trans known
  | act other shared act after _ step => exact known

/-- Each shutdown of a group comes about by atomic steps. -/
theorem reachable_member (reachable : group.Reachable) (member : Nat) :
    (group.shutdowns member).Reachable := by
  induction reachable with
  | refl => exact .refl
  | step leads step ih =>
      rcases step.shutdowns_cases member with same | ⟨made, _⟩ | ⟨act, step⟩
      · rwa [same]
      · rw [made]
        exact .refl
      · exact .step ih step

/-- A call that has begun at the shutdown of a handle has begun there for ever. -/
theorem Leads.begun (leads : group.Leads later) (known : group.handles handle = some member)
    (begun : (group.shutdowns member).Begun) :
    later.handles handle = some member ∧ (later.shutdowns member).Begun := by
  induction leads with
  | refl => exact ⟨known, begun⟩
  | step leads step ih =>
      obtain ⟨still, before⟩ := ih
      refine ⟨step.handles_of_known still, ?_⟩
      rcases step.shutdowns_cases member with same | ⟨_, unused⟩ | ⟨act, step⟩
      · rwa [same]
      · exact absurd still (unused handle)
      · exact step.begun before

theorem Leads.reachable (leads : group.Leads later) (reachable : group.Reachable) :
    later.Reachable := by
  induction leads with
  | refl => exact reachable
  | step leads step ih => exact .step ih step

theorem isTriggered?_eq_some_iff (known : group.handles handle = some member) {flag : Bool} :
    group.isTriggered? handle = some flag ↔ (group.shutdowns member).shutdown.raised = flag := by
  simp [isTriggered?, known, Shutdown.isTriggered]

end AtomicGroup

/-- However the steps of calls, waits, subscriptions and clones of a shutdown
interleave: once a call of trigger has completed, every wait is ready at its next
poll; before any has begun, no handle says so and no wait is ready or gets ready;
and what one handle has once said, every clone says from then on. -/
theorem shutdown_wakes_every_wait {group : AtomicGroup} (reachable : group.Reachable)
    {handle member : Nat} (known : group.handles handle = some member) :
    ((group.shutdowns member).Completed →
      ∀ wait, ((group.shutdowns member).waits wait).IsAlive →
        AtomicTasks.ReadyAtNextPoll wait (group.shutdowns member)) ∧
    (¬ (group.shutdowns member).Begun →
      group.isTriggered? handle = some false ∧
      ∀ wait, (group.shutdowns member).waits wait ≠ .held .finished ∧
        ∀ next, ¬ AtomicTasks.Step (group.shutdowns member) (.advance wait .ready) next) ∧
    (group.isTriggered? handle = some true →
      ∀ later clone, group.Leads later → later.handles clone = some member →
        later.isTriggered? clone = some true) := by
  have invariant :=
    AtomicTasks.reachable_invariant (AtomicGroup.reachable_member reachable member)
  refine ⟨?_, ?_, ?_⟩
  · exact fun completed wait alive =>
      AtomicTasks.readyAtNextPoll_of_completed invariant completed alive
  · intro quiet
    refine ⟨(AtomicGroup.isTriggered?_eq_some_iff known).2 (invariant.flag_down quiet), ?_⟩
    exact fun wait => ⟨fun finished => quiet (invariant.ended wait finished),
      fun next step => AtomicTasks.advance_of_quiet invariant quiet step rfl⟩
  · intro triggered later clone leads same
    have begun := invariant.flag.1 ((AtomicGroup.isTriggered?_eq_some_iff known).1 triggered)
    have after := AtomicTasks.reachable_invariant
      (AtomicGroup.reachable_member (leads.reachable reachable) member)
    rw [AtomicGroup.isTriggered?_eq_some_iff same]
    exact after.flag.2 (leads.begun known begun).2

/-- Two calls by a clone complete while a wait of the first handle is pending, so
that its message is overwritten.  It is ready all the same, and so is a wait that
has not begun. -/
theorem shutdown_wakes_every_wait_overtaken :
    ∃ group : AtomicGroup, group.Reachable ∧ group.handles 0 = some 0 ∧
      group.handles 1 = some 0 ∧ (group.shutdowns 0).shutdown.sent = 2 ∧
      (group.shutdowns 0).waits 0 = .held (.pending 0) ∧ (group.shutdowns 0).waits 1 = .idle ∧
      AtomicTasks.ReadyAtNextPoll 0 (group.shutdowns 0) ∧
      AtomicTasks.ReadyAtNextPoll 1 (group.shutdowns 0) ∧ group.isTriggered? 0 = some true := by
  have start : AtomicGroup.Leads .initial .initial := .refl
  have made := start.step (.create 0 0 rfl nofun)
  have cloned := made.step (.clone 0 1 0 rfl rfl)
  have subscribed := cloned.step (.act 0 0 _ _ rfl (.waitSubscribes 0 rfl))
  have looked := subscribed.step (.act 0 0 _ _ rfl (.waitLooks 0 0 rfl))
  have raised := looked.step (.act 1 0 _ _ rfl (.raise 0 rfl))
  have sent := raised.step (.act 1 0 _ _ rfl (.broadcast 0 rfl))
  have raisedAgain := sent.step (.act 1 0 _ _ rfl (.raise 1 rfl))
  have sentAgain := raisedAgain.step (.act 1 0 _ _ rfl (.broadcast 1 rfl))
  obtain ⟨ready, _, heard⟩ := @shutdown_wakes_every_wait _ sentAgain 1 0 rfl
  exact ⟨_, sentAgain, rfl, rfl, rfl, rfl, rfl, ready ⟨0, rfl⟩ 0 trivial, ready ⟨0, rfl⟩ 1 trivial,
    heard rfl _ 0 .refl rfl⟩

end WebHost
