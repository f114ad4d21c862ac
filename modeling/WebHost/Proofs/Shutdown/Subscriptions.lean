/-
Module: WebHost.Proofs.Shutdown.Subscriptions
Purpose: The subscriptions of a shutdown are those that its tasks hold, each once.
Main exports:
  Shutdown.subscriptions, Shutdown.HeldAs, TaskWait.subscription?, WakeReason,
  TaskWait.Finds, TaskWait.Polled, Tasks.heldAs_of_polled, Tasks.ready_iff_finds,
  Tasks.subscriptions_of_ready, Tasks.held, Tasks.heldAs_step, Tasks.receiverCount_eq
-/
import WebHost.Proofs.Shutdown.Operations

namespace WebHost

/-!
A receiver that is not dropped holds a subscription, and so does a wait that has
been polled and is neither over nor dropped.  The invariant is that these are all
the subscriptions there are, and that no two of them are the same: then the number
of subscriptions is the number of those who hold one, and whoever ends a
subscription ends no other.
-/

/-! ### Subscriptions and their holders -/

namespace Shutdown

/-- The numbers of the subscriptions. -/
def subscriptions (shutdown : Shutdown) : List ReceiverId := shutdown.receivers.map (·.1)

theorem receiverCount_eq_length (shutdown : Shutdown) :
    shutdown.receiverCount = shutdown.subscriptions.length := by
  rw [receiverCount, subscriptions, List.length_map]

theorem subscriptions_trigger (shutdown : Shutdown) :
    shutdown.trigger.subscriptions = shutdown.subscriptions := by
  unfold trigger broadcast
  split <;> rfl

theorem nextReceiver_trigger (shutdown : Shutdown) :
    shutdown.trigger.nextReceiver = shutdown.nextReceiver :=
  nextReceiver_broadcast

theorem subscriptions_subscribe (shutdown : Shutdown) :
    shutdown.subscribe.2.subscriptions = shutdown.subscriptions ++ [shutdown.nextReceiver] := by
  simp [subscribe, subscriptions]

theorem subscriptions_release (shutdown : Shutdown) (receiver : ReceiverId) :
    (shutdown.release receiver).subscriptions = shutdown.subscriptions.filter (· ≠ receiver) := by
  simp only [subscriptions, release, List.filter_map]
  rfl

theorem subscriptions_advance (shutdown : Shutdown) (receiver : ReceiverId) (done : Nat) :
    (shutdown.advance receiver done).subscriptions = shutdown.subscriptions := by
  simp only [subscriptions, advance, List.map_map]
  refine List.map_congr_left fun entry _ => ?_
  by_cases own : entry.1 = receiver <;> simp [own]

theorem subscriptions_receive (shutdown : Shutdown) (receiver : ReceiverId) :
    (shutdown.receive receiver).2.subscriptions = shutdown.subscriptions := by
  rcases shutdown.receive_cases receiver with same | ⟨done, _, moved⟩
  · rw [same]
  · rw [moved, subscriptions_advance]

/-- The subscriptions are those that are listed, each of them once, and all of them
have numbers that were given out. -/
structure HeldAs (shutdown : Shutdown) (held : List ReceiverId) : Prop where
  listed : shutdown.subscriptions.Perm held
  distinct : held.Nodup
  given : ∀ receiver ∈ held, receiver < shutdown.nextReceiver

namespace HeldAs

variable {shutdown after : Shutdown} {receiver : ReceiverId} {held other : List ReceiverId}

/-- The order of the list does not matter. -/
theorem of_perm (holds : shutdown.HeldAs held) (same : held.Perm other) :
    shutdown.HeldAs other where
  listed := holds.listed.trans same
  distinct := same.nodup_iff.1 holds.distinct
  given := fun receiver member => holds.given receiver (same.mem_iff.2 member)

theorem of_same (holds : shutdown.HeldAs held) (same : after.subscriptions = shutdown.subscriptions)
    (numbers : after.nextReceiver = shutdown.nextReceiver) : after.HeldAs held where
  listed := same ▸ holds.listed
  distinct := holds.distinct
  given := numbers ▸ holds.given

theorem trigger (holds : shutdown.HeldAs held) : shutdown.trigger.HeldAs held :=
  holds.of_same shutdown.subscriptions_trigger shutdown.nextReceiver_trigger

theorem receive (holds : shutdown.HeldAs held) (receiver : ReceiverId) :
    (shutdown.receive receiver).2.HeldAs held :=
  holds.of_same (shutdown.subscriptions_receive receiver)
    (shutdown.receive_sameBut receiver).1.nextReceiver

theorem mem_subscriptions (holds : shutdown.HeldAs held) (member : receiver ∈ held) :
    receiver ∈ shutdown.subscriptions :=
  holds.listed.mem_iff.2 member

/-- The number that is given out next is not yet the number of a subscription. -/
theorem nextReceiver_not_mem (holds : shutdown.HeldAs held) :
    shutdown.nextReceiver ∉ shutdown.subscriptions := by
  intro member
  exact Nat.lt_irrefl _ (holds.given _ (holds.listed.mem_iff.1 member))

/-- A new subscription is one more. -/
theorem subscribe (holds : shutdown.HeldAs held) :
    shutdown.subscribe.2.HeldAs (shutdown.nextReceiver :: held) where
  listed := by
    rw [subscriptions_subscribe]
    exact (List.perm_append_singleton _ _).trans (holds.listed.cons _)
  distinct := by
    refine List.nodup_cons.2 ⟨fun member => ?_, holds.distinct⟩
    exact Nat.lt_irrefl _ (holds.given _ member)
  given := by
    intro receiver member
    show receiver < shutdown.nextReceiver + 1
    rcases List.mem_cons.1 member with rfl | earlier
    · exact Nat.lt_succ_self _
    · exact Nat.lt_succ_of_lt (holds.given receiver earlier)

/-- An ended subscription is one fewer, and no other ends with it. -/
theorem release (holds : shutdown.HeldAs (receiver :: held)) :
    (shutdown.release receiver).HeldAs held := by
  obtain ⟨apart, distinct⟩ := List.nodup_cons.1 holds.distinct
  refine ⟨?_, distinct, fun other member => holds.given other (List.mem_cons_of_mem _ member)⟩
  have others : held.filter (· ≠ receiver) = held := by
    refine List.filter_eq_self.2 fun other member => decide_eq_true ?_
    rintro rfl
    exact apart member
  have kept := holds.listed.filter (· ≠ receiver)
  rwa [← subscriptions_release, List.filter_cons_of_neg (by simp), others] at kept

theorem receiverCount_eq (holds : shutdown.HeldAs held) :
    shutdown.receiverCount = held.length := by
  rw [receiverCount_eq_length, holds.listed.length_eq]

end HeldAs

end Shutdown

/-! ### What waits hold -/

/-- The subscription that a wait holds. -/
def TaskWait.subscription? : TaskWait → Option ReceiverId
  | .running (.pending receiver) => some receiver
  | _ => none

/-- Why a wait is over after a poll: it found the flag up, it got a signal, or it
was told that it had missed some. -/
inductive WakeReason where
  | flagUp
  | signal
  | lagNotice (missed : Nat)
deriving Repr, DecidableEq

/-- What a wait finds when it is polled.  A wait that has not begun looks at the
flag; one that has begun and is not over looks into the channel. -/
inductive TaskWait.Finds (shutdown : Shutdown) : TaskWait → WakeReason → Prop where
  | flagUp (up : shutdown.isTriggered = true) : Finds shutdown .idle .flagUp
  | signal {receiver : ReceiverId} (got : (shutdown.receive receiver).1 = .signal) :
      Finds shutdown (.running (.pending receiver)) .signal
  | lagNotice {receiver : ReceiverId} {missed : Nat}
      (got : (shutdown.receive receiver).1 = .lagged missed) :
      Finds shutdown (.running (.pending receiver)) (.lagNotice missed)

/-- What a poll does: the answer, and the wait and its shutdown after it. -/
inductive TaskWait.Polled (shutdown : Shutdown) :
    TaskWait → TaskOutcome × TaskWait × Shutdown → Prop where
  | flagUp (up : shutdown.isTriggered = true) :
      Polled shutdown .idle
        (.ready, .running .finished, shutdown.subscribe.2.release shutdown.nextReceiver)
  | begins (down : shutdown.isTriggered = false) :
      Polled shutdown .idle
        (.pending, .running (.pending shutdown.nextReceiver), shutdown.subscribe.2)
  | goesOn (receiver : ReceiverId) (nothing : (shutdown.receive receiver).1 = .empty) :
      Polled shutdown (.running (.pending receiver))
        (.pending, .running (.pending receiver), (shutdown.receive receiver).2)
  | wakes (receiver : ReceiverId) (news : (shutdown.receive receiver).1 ≠ .empty) :
      Polled shutdown (.running (.pending receiver))
        (.ready, .running .finished, (shutdown.receive receiver).2.release receiver)
  | finished : Polled shutdown (.running .finished) (.over, .running .finished, shutdown)
  | dropped : Polled shutdown .dropped (.over, .dropped, shutdown)

namespace Tasks

variable {shutdown : Shutdown}

theorem pollHeld_polled (shutdown : Shutdown) (wait : TaskWait) :
    wait.Polled shutdown (pollHeld shutdown wait) := by
  cases wait with
  | dropped => exact .dropped
  | idle =>
      cases flag : shutdown.isTriggered with
      | true =>
          have looked := Shutdown.checkFlag_raised
            (show shutdown.subscribe.2.raised = true from flag) shutdown.nextReceiver
          have begun : shutdown.beginWait =
              (.finished, shutdown.subscribe.2.release shutdown.nextReceiver) := looked
          rw [pollHeld, begun]
          exact .flagUp flag
      | false =>
          have looked := Shutdown.checkFlag_lowered
            (show shutdown.subscribe.2.raised = false from flag) shutdown.nextReceiver
          have begun : shutdown.beginWait =
              (.pending shutdown.nextReceiver, shutdown.subscribe.2) := looked
          rw [pollHeld, begun]
          exact .begins flag
  | running state =>
      cases state with
      | finished => exact .finished
      | pending receiver =>
          cases got : shutdown.receive receiver with
          | mk what after =>
              have goesOn := @TaskWait.Polled.goesOn shutdown receiver
              have wakes := @TaskWait.Polled.wakes shutdown receiver
              rw [got] at goesOn wakes
              rw [pollHeld, Shutdown.pollWait, got]
              cases what with
              | empty => exact goesOn rfl
              | signal => exact wakes (by simp)
              | lagged missed => exact wakes (by simp)
              | closed => exact wakes (by simp)

/-! ### Polling and dropping -/

section Polling

variable {wait : TaskWait} {result : TaskOutcome × TaskWait × Shutdown} {others : List ReceiverId}

/-- A wait that is polled ends the subscription that it held, unless it holds it still,
and holds no other than the one that it has made. -/
theorem heldAs_of_polled (polled : wait.Polled shutdown result)
    (holds : shutdown.HeldAs (wait.subscription?.toList ++ others)) :
    result.2.2.HeldAs (result.2.1.subscription?.toList ++ others) := by
  cases polled with
  | flagUp up => exact holds.subscribe.release
  | begins down => exact holds.subscribe
  | goesOn receiver nothing => exact holds.receive receiver
  | wakes receiver news => exact (holds.receive receiver).release
  | finished => exact holds
  | dropped => exact holds

/-- A wait that is dropped ends what it held. -/
theorem heldAs_releaseWait (holds : shutdown.HeldAs (wait.subscription?.toList ++ others)) :
    (releaseWait shutdown wait).HeldAs others := by
  cases wait with
  | idle => exact holds
  | dropped => exact holds
  | running state =>
      cases state with
      | finished => exact holds
      | pending receiver => exact Shutdown.HeldAs.release holds

/-- A receiver that has a subscription does not find the channel closed. -/
theorem receive_ne_closed {receiver : ReceiverId}
    (subscribed : receiver ∈ shutdown.subscriptions) :
    (shutdown.receive receiver).1 ≠ .closed := by
  obtain ⟨done, found⟩ : ∃ done, shutdown.receivers.lookup receiver = some done :=
    Option.isSome_iff_exists.1 ((lookup_isSome_iff_mem_keys _ _).2 subscribed)
  unfold Shutdown.receive
  rw [found]
  dsimp only
  split
  · nofun
  · split <;> nofun

/-- A poll completes a wait for one of the three reasons, and for nothing else. -/
theorem ready_iff_finds (polled : wait.Polled shutdown result)
    (holds : shutdown.HeldAs (wait.subscription?.toList ++ others)) :
    result.1 = .ready ↔ ∃ reason, wait.Finds shutdown reason := by
  cases polled with
  | flagUp up => exact ⟨fun _ => ⟨_, .flagUp up⟩, fun _ => rfl⟩
  | begins down =>
      refine ⟨nofun, fun ⟨_, finds⟩ => ?_⟩
      cases finds with
      | flagUp up => exact absurd (up.symm.trans down) nofun
  | goesOn receiver nothing =>
      refine ⟨nofun, fun ⟨_, finds⟩ => ?_⟩
      cases finds with
      | signal got => exact absurd (got.symm.trans nothing) nofun
      | lagNotice got => exact absurd (got.symm.trans nothing) nofun
  | wakes receiver news =>
      refine ⟨fun _ => ?_, fun _ => rfl⟩
      have subscribed := holds.mem_subscriptions List.mem_cons_self
      cases got : (shutdown.receive receiver).1 with
      | signal => exact ⟨_, .signal got⟩
      | empty => exact absurd got news
      | lagged missed => exact ⟨_, .lagNotice got⟩
      | closed => exact absurd got (receive_ne_closed subscribed)
  | finished => exact ⟨nofun, nofun⟩
  | dropped => exact ⟨nofun, nofun⟩

/-- A wait that completes has made a subscription to look at the flag, or has had one,
and ends it. -/
theorem ends_of_ready (polled : wait.Polled shutdown result) (ready : result.1 = .ready) :
    (wait = .idle ∧ result.2.2 = shutdown.subscribe.2.release shutdown.nextReceiver) ∨
      ∃ receiver, wait = .running (.pending receiver) ∧
        result.2.2 = (shutdown.receive receiver).2.release receiver := by
  cases polled with
  | flagUp up => exact .inl ⟨rfl, rfl⟩
  | wakes receiver news => exact .inr ⟨receiver, rfl, rfl⟩
  | begins down => cases ready
  | goesOn receiver nothing => cases ready
  | finished => cases ready
  | dropped => cases ready

/-- A wait that is over holds nothing. -/
theorem heldAs_of_ready (polled : wait.Polled shutdown result)
    (holds : shutdown.HeldAs (wait.subscription?.toList ++ others)) (ready : result.1 = .ready) :
    result.2.2.HeldAs others := by
  obtain ⟨rfl, after⟩ | ⟨receiver, rfl, after⟩ := ends_of_ready polled ready
  · rw [after]
    exact holds.subscribe.release
  · rw [after]
    exact (holds.receive receiver).release

/-- A poll that completes a wait leaves the subscriptions as they were, without the one
that the wait held.  The one that it made to look at the flag is not among them. -/
theorem subscriptions_of_ready (polled : wait.Polled shutdown result)
    (holds : shutdown.HeldAs (wait.subscription?.toList ++ others)) (ready : result.1 = .ready) :
    result.2.2.subscriptions =
      shutdown.subscriptions.filter fun receiver => wait.subscription? ≠ some receiver := by
  obtain ⟨rfl, after⟩ | ⟨receiver, rfl, after⟩ := ends_of_ready polled ready
  · have fresh := holds.nextReceiver_not_mem
    rw [after, Shutdown.subscriptions_release, Shutdown.subscriptions_subscribe,
      List.filter_append, List.filter_cons_of_neg (by simp), List.filter_nil, List.append_nil]
    refine List.filter_congr fun receiver member => ?_
    have apart : receiver ≠ shutdown.nextReceiver := fun same => fresh (same ▸ member)
    simp [apart, TaskWait.subscription?]
  · rw [after, Shutdown.subscriptions_release, Shutdown.subscriptions_receive]
    refine List.filter_congr fun other _ => ?_
    simp [TaskWait.subscription?, eq_comm]

end Polling

/-! ### The invariant -/

/-- The subscriptions that tasks hold. -/
def held (tasks : Tasks) : List ReceiverId :=
  tasks.receivers.filterMap id ++ tasks.waits.filterMap TaskWait.subscription?

variable {tasks : Tasks}

section Places

variable {place : Nat} {before : TaskWait}

/-- The subscriptions that tasks hold beside a wait. -/
def heldBeside (tasks : Tasks) (place : Nat) : List ReceiverId :=
  tasks.receivers.filterMap id ++ (tasks.waits.eraseIdx place).filterMap TaskWait.subscription?

theorem held_perm_wait (found : tasks.waits[place]? = some before) :
    tasks.held.Perm (before.subscription?.toList ++ tasks.heldBeside place) :=
  ((filterMap_perm_of_getElem? _ found).append_left _).trans (List.perm_append_comm_assoc _ _ _)

theorem held_set_wait (found : tasks.waits[place]? = some before) (after : TaskWait) :
    (after.subscription?.toList ++ tasks.heldBeside place).Perm
      { tasks with shutdown := shutdown, waits := tasks.waits.set place after }.held := by
  have inside : place < tasks.waits.length := (List.getElem?_eq_some_iff.1 found).1
  have apart := filterMap_set_perm TaskWait.subscription? inside after
  exact (List.perm_append_comm_assoc _ _ _).trans (apart.symm.append_left _)

theorem held_append_wait (after : TaskWait) :
    (after.subscription?.toList ++ tasks.held).Perm
      { tasks with shutdown := shutdown, waits := tasks.waits ++ [after] }.held := by
  have added : (tasks.waits ++ [after]).filterMap TaskWait.subscription? =
      tasks.waits.filterMap TaskWait.subscription? ++ after.subscription?.toList := by
    cases gives : after.subscription? <;> simp [gives]
  rw [held, held, added, ← List.append_assoc (tasks.receivers.filterMap id)]
  exact List.perm_append_comm

end Places

/-- Every step of a task keeps the subscriptions those that tasks hold. -/
theorem heldAs_step (holds : tasks.shutdown.HeldAs tasks.held) (made : TaskStep) :
    (tasks.step made).2.shutdown.HeldAs (tasks.step made).2.held := by
  cases made with
  | subscribe =>
      refine holds.subscribe.of_perm ?_
      have added : (tasks.receivers ++ [some tasks.shutdown.nextReceiver]).filterMap id =
          tasks.receivers.filterMap id ++ [tasks.shutdown.nextReceiver] := by simp
      show (tasks.shutdown.nextReceiver :: tasks.held).Perm
        ((tasks.receivers ++ [some tasks.shutdown.nextReceiver]).filterMap id ++ _)
      rw [added, List.append_assoc]
      exact List.perm_middle.symm
  | trigger => exact holds.trigger
  | isTriggered => exact holds
  | count => exact holds
  | makeWait => exact holds.of_perm (held_append_wait .idle)
  | beginWait =>
      have polled := heldAs_of_polled (pollHeld_polled tasks.shutdown .idle) holds
      exact polled.of_perm (held_append_wait _)
  | pollWait wait =>
      cases found : tasks.waits[wait]? with
      | none => simpa [step, found] using holds
      | some before =>
          have polled := heldAs_of_polled (pollHeld_polled tasks.shutdown before)
            (holds.of_perm (held_perm_wait found))
          simp only [step, found]
          exact polled.of_perm (held_set_wait found _)
  | receive receiver =>
      cases found : tasks.receivers[receiver]? with
      | none => simpa [step, found] using holds
      | some place =>
          cases place with
          | none => simpa [step, found] using holds
          | some subscription =>
              simp only [step, found]
              exact holds.receive subscription
  | dropReceiver receiver =>
      cases found : tasks.receivers[receiver]? with
      | none => simpa [step, found] using holds
      | some place =>
          cases place with
          | none => simpa [step, found] using holds
          | some subscription =>
              have inside : receiver < tasks.receivers.length :=
                (List.getElem?_eq_some_iff.1 found).1
              have apart := filterMap_perm_of_getElem? id found
              have rest := filterMap_set_perm id inside none
              have ended := (holds.of_perm (apart.append_right _)).release
              simp only [step, found]
              exact ended.of_perm (rest.symm.append_right _)
  | dropWait wait =>
      cases found : tasks.waits[wait]? with
      | none => simpa [step, found] using holds
      | some before =>
          have ended := heldAs_releaseWait (holds.of_perm (held_perm_wait found))
          simp only [step, found]
          exact ended.of_perm (held_set_wait found .dropped)

theorem Reachable.heldAs (reachable : Reachable tasks) : tasks.shutdown.HeldAs tasks.held := by
  induction reachable with
  | initial => exact ⟨.refl _, List.nodup_nil, nofun⟩
  | step reachable made ih => exact heldAs_step ih made

/-- There are as many subscriptions as receivers that are not dropped and waits that
are under way. -/
theorem receiverCount_eq (reachable : Reachable tasks) :
    tasks.shutdown.receiverCount =
      tasks.receivers.countP (·.isSome) + tasks.waits.countP (·.subscription?.isSome) := by
  rw [reachable.heldAs.receiverCount_eq, held, List.length_append,
    List.length_filterMap_eq_countP, List.length_filterMap_eq_countP]
  rfl

end Tasks

end WebHost
