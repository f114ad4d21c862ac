/-
Module: WebHost.Proofs.Shutdown.Channel
Purpose: What the steps on a shutdown do to its flag and to its subscriptions.
Main exports:
  Shutdown.doneWith?, Shutdown.Consistent, Shutdown.SameBut, checkFlag_raised,
  checkFlag_lowered, pollWait_of_behind, pollWait_of_caughtUp
-/
import WebHost.Proofs.Lists
import WebHost.Shutdown.Signal

namespace WebHost

/-!
A subscription is seen here through one number, that of the messages it is done
with.  It has news when more were sent.  Every step of one task changes this
number for its own subscription at most, and what a wait gets depends on the
flag, on that number and on nothing else.
-/

namespace Shutdown

/-- The number of messages that a subscription is done with, while it lasts. -/
def doneWith? (shutdown : Shutdown) (receiver : ReceiverId) : Option Nat :=
  shutdown.receivers.lookup receiver

/-- Only numbers that were given out have subscriptions, and none of these is
done with more messages than were sent. -/
def Consistent (shutdown : Shutdown) : Prop :=
  ∀ receiver done, shutdown.doneWith? receiver = some done →
    receiver < shutdown.nextReceiver ∧ done ≤ shutdown.sent

/-- Nothing has changed but what one subscription is done with. -/
structure SameBut (receiver : ReceiverId) (before after : Shutdown) : Prop where
  raised : after.raised = before.raised
  sent : after.sent = before.sent
  nextReceiver : after.nextReceiver = before.nextReceiver
  others : ∀ other, other ≠ receiver → after.doneWith? other = before.doneWith? other

theorem SameBut.refl (receiver : ReceiverId) (shutdown : Shutdown) :
    SameBut receiver shutdown shutdown :=
  ⟨rfl, rfl, rfl, fun _ _ => rfl⟩

theorem SameBut.trans {receiver : ReceiverId} {first second third : Shutdown}
    (one : SameBut receiver first second) (two : SameBut receiver second third) :
    SameBut receiver first third where
  raised := two.raised.trans one.raised
  sent := two.sent.trans one.sent
  nextReceiver := two.nextReceiver.trans one.nextReceiver
  others := fun other apart => (two.others other apart).trans (one.others other apart)

variable {shutdown : Shutdown} {receiver : ReceiverId} {done : Nat}

/-! ### Triggering -/

@[simp] theorem doneWith?_broadcast :
    shutdown.broadcast.doneWith? receiver = shutdown.doneWith? receiver := by
  unfold broadcast
  split <;> rfl

@[simp] theorem raised_broadcast : shutdown.broadcast.raised = shutdown.raised := by
  unfold broadcast
  split <;> rfl

@[simp] theorem nextReceiver_broadcast :
    shutdown.broadcast.nextReceiver = shutdown.nextReceiver := by
  unfold broadcast
  split <;> rfl

theorem sent_le_broadcast : shutdown.sent ≤ shutdown.broadcast.sent := by
  unfold broadcast
  split
  · exact Nat.le_refl _
  · exact Nat.le_succ _

/-- A message is sent when anything subscribes. -/
theorem sent_broadcast (subscribed : shutdown.doneWith? receiver = some done) :
    shutdown.broadcast.sent = shutdown.sent + 1 := by
  have nonempty : shutdown.receivers ≠ [] := by
    intro empty
    simp [doneWith?, empty] at subscribed
  simp [broadcast, nonempty]

theorem consistent_broadcast (consistent : shutdown.Consistent) :
    shutdown.broadcast.Consistent := by
  intro receiver done found
  obtain ⟨given, bounded⟩ := consistent receiver done (by simpa using found)
  exact ⟨by simpa using given, Nat.le_trans bounded sent_le_broadcast⟩

/-! ### Subscribing and receiving -/

/-- A new subscription is done with everything that was sent before it. -/
theorem doneWith?_subscribe (consistent : shutdown.Consistent) (receiver : ReceiverId) :
    shutdown.subscribe.2.doneWith? receiver =
      if receiver = shutdown.nextReceiver then some shutdown.sent
      else shutdown.doneWith? receiver := by
  have fresh : shutdown.doneWith? shutdown.nextReceiver = none := by
    rw [Option.eq_none_iff_forall_ne_some]
    exact fun done found => Nat.lt_irrefl _ (consistent _ done found).1
  have entries : shutdown.subscribe.2.doneWith? receiver =
      (shutdown.doneWith? receiver).or
        (if receiver = shutdown.nextReceiver then some shutdown.sent else none) := by
    unfold subscribe doneWith?
    rw [List.lookup_append]
    by_cases here : receiver = shutdown.nextReceiver
    · simp [here]
    · simp [here, List.lookup_cons, beq_false_of_ne here]
  rw [entries]
  by_cases here : receiver = shutdown.nextReceiver
  · simp [here, fresh]
  · simp [here]

theorem consistent_subscribe (consistent : shutdown.Consistent) :
    shutdown.subscribe.2.Consistent := by
  intro receiver done found
  rw [doneWith?_subscribe consistent] at found
  by_cases fresh : receiver = shutdown.nextReceiver
  · rw [if_pos fresh] at found
    cases found
    exact ⟨fresh ▸ Nat.lt_succ_self _, Nat.le_refl _⟩
  · rw [if_neg fresh] at found
    obtain ⟨given, bounded⟩ := consistent receiver done found
    exact ⟨Nat.lt_succ_of_lt given, bounded⟩

/-- An ended subscription is done with nothing any more. -/
theorem doneWith?_release (shutdown : Shutdown) (receiver other : ReceiverId) :
    (shutdown.release receiver).doneWith? other =
      if other = receiver then none else shutdown.doneWith? other :=
  lookup_filter_ne shutdown.receivers receiver other

theorem sameBut_release (shutdown : Shutdown) (receiver : ReceiverId) :
    SameBut receiver shutdown (shutdown.release receiver) where
  raised := rfl
  sent := rfl
  nextReceiver := rfl
  others := fun other apart => by rw [doneWith?_release, if_neg apart]

theorem doneWith?_advance (shutdown : Shutdown) (receiver other : ReceiverId) (done : Nat) :
    (shutdown.advance receiver done).doneWith? other =
      (shutdown.doneWith? other).map fun old => if other = receiver then done else old := by
  unfold advance doneWith?
  induction shutdown.receivers with
  | nil => rfl
  | cons entry rest ih =>
      obtain ⟨first, old⟩ := entry
      by_cases own : first = receiver
      · subst own
        by_cases here : other = first
        · simp [here]
        · simpa [List.lookup_cons, beq_false_of_ne here, here] using ih
      · by_cases here : other = first
        · simp [here, own]
        · simpa [List.lookup_cons, beq_false_of_ne here, own] using ih

theorem advance_sameBut (shutdown : Shutdown) (receiver : ReceiverId) (done : Nat) :
    SameBut receiver shutdown (shutdown.advance receiver done) where
  raised := rfl
  sent := rfl
  nextReceiver := rfl
  others := fun other apart => by simp [doneWith?_advance, apart]

/-- Receiving does nothing, or it moves the subscription to a message that was
sent. -/
theorem receive_cases (shutdown : Shutdown) (receiver : ReceiverId) :
    (shutdown.receive receiver).2 = shutdown ∨
      ∃ done ≤ shutdown.sent, (shutdown.receive receiver).2 = shutdown.advance receiver done := by
  unfold receive
  cases shutdown.receivers.lookup receiver with
  | none => exact .inl rfl
  | some done =>
      dsimp only
      split
      · exact .inl rfl
      · split
        · exact .inr ⟨_, Nat.le_refl _, rfl⟩
        · exact .inr ⟨_, Nat.sub_le _ _, rfl⟩

/-- Receiving leaves a subscription where it is, and everything else as it was. -/
theorem receive_sameBut (shutdown : Shutdown) (receiver : ReceiverId) :
    SameBut receiver shutdown (shutdown.receive receiver).2 ∧
      ((shutdown.receive receiver).2.doneWith? receiver).isSome =
        (shutdown.doneWith? receiver).isSome := by
  rcases shutdown.receive_cases receiver with same | ⟨done, _, moved⟩
  · rw [same]
    exact ⟨.refl receiver shutdown, rfl⟩
  · rw [moved]
    exact ⟨shutdown.advance_sameBut receiver done, by simp [doneWith?_advance]⟩

theorem consistent_receive (consistent : shutdown.Consistent) (receiver : ReceiverId) :
    (shutdown.receive receiver).2.Consistent := by
  rcases shutdown.receive_cases receiver with same | ⟨done, sent, moved⟩
  · rwa [same]
  · rw [moved]
    intro other now found
    rw [doneWith?_advance] at found
    obtain ⟨old, before, rfl⟩ := Option.map_eq_some_iff.1 found
    obtain ⟨given, bounded⟩ := consistent other old before
    refine ⟨given, ?_⟩
    show (if other = receiver then done else old) ≤ shutdown.sent
    split
    · exact sent
    · exact bounded

theorem consistent_release (consistent : shutdown.Consistent) (receiver : ReceiverId) :
    (shutdown.release receiver).Consistent := by
  intro other done found
  rw [doneWith?_release] at found
  exact consistent other done (Option.ite_none_left_eq_some.1 found).2

/-! ### Waiting -/

/-- A wait that finds the flag up is over, and its subscription ended. -/
theorem checkFlag_raised (up : shutdown.raised = true) (receiver : ReceiverId) :
    shutdown.checkFlag receiver = (.finished, shutdown.release receiver) := by
  simp [checkFlag, isTriggered, up]

/-- A wait that finds the flag down goes on with its subscription. -/
theorem checkFlag_lowered (down : shutdown.raised = false) (receiver : ReceiverId) :
    shutdown.checkFlag receiver = (.pending receiver, shutdown) := by
  simp [checkFlag, isTriggered, down]

/-- A wait that begins when the flag is up is over at once. -/
theorem beginWait_raised (up : shutdown.isTriggered = true) :
    shutdown.beginWait.1 = .finished := by
  have looked := checkFlag_raised (show shutdown.subscribe.2.raised = true from up)
    shutdown.subscribe.1
  exact congrArg Prod.fst looked

/-- A wait that begins when the flag is down keeps its subscription. -/
theorem beginWait_lowered (down : shutdown.isTriggered = false) :
    shutdown.beginWait.1 = .pending shutdown.nextReceiver := by
  have looked := checkFlag_lowered (show shutdown.subscribe.2.raised = false from down)
    shutdown.subscribe.1
  exact congrArg Prod.fst looked

/-- A wait stays pending while its subscription has seen all messages. -/
theorem pollWait_of_caughtUp (subscribed : shutdown.doneWith? receiver = some done)
    (seen : shutdown.sent ≤ done) :
    shutdown.pollWait (.pending receiver) = (.pending receiver, shutdown) := by
  have found : shutdown.receivers.lookup receiver = some done := subscribed
  simp [pollWait, receive, found, seen]

/-- Any message that a wait has not seen ends it, whether it gets that message
or hears that it has missed some. -/
theorem pollWait_of_behind (subscribed : shutdown.doneWith? receiver = some done)
    (news : done < shutdown.sent) :
    shutdown.pollWait (.pending receiver) =
      (.finished, (shutdown.receive receiver).2.release receiver) := by
  have found : shutdown.receivers.lookup receiver = some done := subscribed
  have unseen : ¬ shutdown.sent ≤ done := Nat.not_le.2 news
  unfold pollWait receive
  simp only [found, unseen, if_false]
  by_cases next : shutdown.sent = done + 1
  · simp [next]
  · simp [next]

/-- A wait that ends has ended its subscription and touched nothing else. -/
theorem receive_release_sameBut (shutdown : Shutdown) (receiver : ReceiverId) :
    SameBut receiver shutdown ((shutdown.receive receiver).2.release receiver) :=
  (receive_sameBut shutdown receiver).1.trans (sameBut_release _ receiver)

end Shutdown

end WebHost
