/-
Module: WebHost.Proofs.Session.Echo
Purpose: What one session of the echo protocol is owed, reads and is sent.
Main exports:
  framesRead, framesSent, Demo.SameEcho, Demo.Counted, echo_step_congr, EchoTurn,
  echoTurn_step, Account, takeEvents_account, echoAlone
-/
import WebHost.Demo
import WebHost.Proofs.Session.Course

namespace WebHost

/-!
All sessions of the echo protocol share one table of the greetings that they are
owed.  An event of a session looks at its own entry of the table and at nothing
else there, and changes no other entry.  So what a session is sent follows from
its own events alone, and a count over these shows that it has been sent no more
greetings than it has read frames.
-/

/-! ### The table of greetings -/

namespace Demo

theorem owed?_setOwed (demo : Demo) (id key : SessionId) (count : Nat) :
    (demo.setOwed id count).owed? key = if key = id then some count else demo.owed? key := by
  unfold setOwed owed?
  by_cases same : key = id
  · simp [same]
  · simp only [List.lookup_cons, beq_false_of_ne same, lookup_filter_ne, if_neg same]

theorem owed?_forget (demo : Demo) (id key : SessionId) :
    (demo.forget id).owed? key = if key = id then none else demo.owed? key :=
  lookup_filter_ne demo.owed id key

/-- What the echo protocol remembers is the same. -/
structure SameEcho (one other : Demo) : Prop where
  opened : other.opened = one.opened
  frames : other.frames = one.frames
  closed : other.closed = one.closed
  texts : other.texts = one.texts
  owed : other.owed = one.owed

theorem SameEcho.refl (demo : Demo) : demo.SameEcho demo where
  opened := rfl
  frames := rfl
  closed := rfl
  texts := rfl
  owed := rfl

end Demo

/-! ### What is counted -/

/-- The text that a frame carries, if it is one of text. -/
def Frame.text? : Frame → Option String
  | .text value => some value
  | .binary _ => none

/-- The frames that some acts read, in order. -/
def framesRead (acts : List SessionAct) : List Frame := acts.filterMap SessionAct.readFrame?

/-- The frames that some acts send, in order. -/
def framesSent (acts : List SessionAct) : List Frame := acts.filterMap SessionAct.sentFrame?

@[simp] theorem framesRead_append (acts more : List SessionAct) :
    framesRead (acts ++ more) = framesRead acts ++ framesRead more := by
  simp [framesRead]

@[simp] theorem framesSent_append (acts more : List SessionAct) :
    framesSent (acts ++ more) = framesSent acts ++ framesSent more := by
  simp [framesSent]

/-- The counters have grown by the calls that some acts show, and the texts by
those that were read. -/
structure Demo.Counted (acts : List SessionAct) (before after : Demo) : Prop where
  opened : after.opened = before.opened + acts.count .opened
  frames : after.frames = before.frames + (framesRead acts).length
  closed : after.closed = before.closed + acts.count .closed
  texts : after.texts = before.texts ++ (framesRead acts).filterMap Frame.text?

namespace Demo

theorem SameEcho.counted {before after : Demo} (same : before.SameEcho after) :
    Counted [] before after where
  opened := same.opened
  frames := same.frames
  closed := same.closed
  texts := same.texts.trans (List.append_nil before.texts).symm

theorem Counted.trans {acts more : List SessionAct} {before between after : Demo}
    (counted : Counted acts before between) (later : Counted more between after) :
    Counted (acts ++ more) before after where
  opened := by rw [later.opened, counted.opened, List.count_append, Nat.add_assoc]
  frames := by
    rw [later.frames, counted.frames, framesRead_append, List.length_append, Nat.add_assoc]
  closed := by rw [later.closed, counted.closed, List.count_append, Nat.add_assoc]
  texts := by
    rw [later.texts, counted.texts, framesRead_append, List.filterMap_append, List.append_assoc]

/-- Acts that are no calls but polls count for nothing. -/
theorem counted_of_still (acts : List SessionAct) (demo : Demo) (unopened : .opened ∉ acts)
    (unread : framesRead acts = []) (unclosed : .closed ∉ acts) : Counted acts demo demo where
  opened := by rw [List.count_eq_zero_of_not_mem unopened, Nat.add_zero]
  frames := by rw [unread, List.length_nil, Nat.add_zero]
  closed := by rw [List.count_eq_zero_of_not_mem unclosed, Nat.add_zero]
  texts := by rw [unread, List.filterMap_nil, List.append_nil]

end Demo

/-! ### One event -/

section Event

variable {info : SessionInfo}

theorem owed?_echoRead (frame : Frame) (demo : Demo) (key : SessionId) :
    (echoRead info frame demo).owed? key =
      if key = info.id then some ((demo.owed? info.id).getD 0 + 1) else demo.owed? key :=
  Demo.owed?_setOwed _ info.id key _

theorem counted_echoRead (frame : Frame) (demo : Demo) :
    Demo.Counted [.read frame true] demo (echoRead info frame demo) where
  opened := rfl
  frames := rfl
  closed := rfl
  texts := by
    cases frame with
    | text value => rfl
    | binary content => exact (List.append_nil demo.texts).symm

/-- At a tick, a session that is owed a greeting is sent one. -/
theorem pollFrame_of_owed {world : World Demo} {count : Nat}
    (owes : world.app.owed? info.id = some (count + 1)) (sendable : Bool) :
    pollFrame echoHandler info sendable world =
      { acts := [.polled (some (.text echoGreeting)), .sent (.text echoGreeting) sendable]
        goesOn := sendable
        world :=
          { world with
            app := world.app.setOwed info.id count
            metrics :=
              if sendable then world.metrics.recordFrame .outward else world.metrics } } := by
  have wrote : echoHandler.onWrite info world.app =
      (some (.text echoGreeting), world.app.setOwed info.id count) := by
    simp [echoHandler, echoWrite, owes]
  simp only [pollFrame, wrote]

/-- At a tick, a session that is owed nothing is sent nothing. -/
theorem pollFrame_of_settled {world : World Demo}
    (settled : ∀ count, world.app.owed? info.id ≠ some (count + 1)) (sendable : Bool) :
    pollFrame echoHandler info sendable world =
      { acts := [.polled none], goesOn := true, world := world } := by
  have wrote : echoHandler.onWrite info world.app = (none, world.app) := by
    simp only [echoHandler, echoWrite]
  simp only [pollFrame, wrote]

/-- A session is owed a greeting, or it is not. -/
theorem owes_or_settled (entry : Option Nat) :
    (∃ count, entry = some (count + 1)) ∨ ∀ count, entry ≠ some (count + 1) := by
  rcases entry with _ | _ | count
  · exact Or.inr nofun
  · exact Or.inr nofun
  · exact Or.inl ⟨count, rfl⟩

/-- What is done about an event, and what the session is owed after it, follows
from what it was owed before. -/
theorem echo_step_congr (event : SessionEvent) {one other : World Demo}
    (same : one.app.owed? info.id = other.app.owed? info.id) :
    (event.step echoHandler info one).acts = (event.step echoHandler info other).acts ∧
      (event.step echoHandler info one).goesOn = (event.step echoHandler info other).goesOn ∧
      (event.step echoHandler info one).world.app.owed? info.id =
        (event.step echoHandler info other).world.app.owed? info.id := by
  have read (frame : Frame) : (echoRead info frame one.app).owed? info.id =
      (echoRead info frame other.app).owed? info.id := by
    rw [owed?_echoRead, owed?_echoRead, same]
  cases event with
  | text value => exact ⟨rfl, rfl, read (.text value)⟩
  | binary content => exact ⟨rfl, rfl, read (.binary content)⟩
  | ping => exact ⟨rfl, rfl, same⟩
  | pong => exact ⟨rfl, rfl, same⟩
  | peerClosed => exact ⟨rfl, rfl, same⟩
  | receiveFailed => exact ⟨rfl, rfl, same⟩
  | streamEnded => exact ⟨rfl, rfl, same⟩
  | stopped => exact ⟨rfl, rfl, same⟩
  | tick sendable =>
      simp only [SessionEvent.step]
      rcases owes_or_settled (one.app.owed? info.id) with ⟨count, owes⟩ | settled
      · rw [pollFrame_of_owed owes, pollFrame_of_owed (same ▸ owes)]
        simp [Demo.owed?_setOwed]
      · rw [pollFrame_of_settled settled, pollFrame_of_settled (same ▸ settled)]
        exact ⟨rfl, rfl, same⟩

/-- What an event can do to a session of the echo protocol: a frame is read, the
session is paid or not at a tick, or nothing but a close frame comes of it. -/
inductive EchoTurn (info : SessionInfo) (world : World Demo) : Turn Demo → Prop where
  | read (frame : Frame) : EchoTurn info world (readFrame echoHandler info frame world)
  | paid (sendable : Bool) (count : Nat) (owes : world.app.owed? info.id = some (count + 1)) :
      EchoTurn info world (pollFrame echoHandler info sendable world)
  | settled : EchoTurn info world { acts := [.polled none], goesOn := true, world := world }
  | quiet (acts : List SessionAct) (goesOn : Bool) (still : acts = [] ∨ acts = [.sentClose]) :
      EchoTurn info world { acts := acts, goesOn := goesOn, world := world }

theorem echoTurn_step (event : SessionEvent) (world : World Demo) :
    EchoTurn info world (event.step echoHandler info world) := by
  cases event with
  | text value => exact .read (.text value)
  | binary content => exact .read (.binary content)
  | ping => exact .quiet [] true (Or.inl rfl)
  | pong => exact .quiet [] true (Or.inl rfl)
  | peerClosed => exact .quiet [] false (Or.inl rfl)
  | receiveFailed => exact .quiet [] false (Or.inl rfl)
  | streamEnded => exact .quiet [] false (Or.inl rfl)
  | stopped => exact .quiet [.sentClose] false (Or.inr rfl)
  | tick sendable =>
      rcases owes_or_settled (world.app.owed? info.id) with ⟨count, owes⟩ | settled
      · exact .paid sendable count owes
      · rw [SessionEvent.step, pollFrame_of_settled settled]
        exact .settled

/-- No event of a session changes what another one is owed. -/
theorem EchoTurn.others {world : World Demo} {turn : Turn Demo}
    (echo : EchoTurn info world turn) {id : SessionId} (apart : id ≠ info.id) :
    turn.world.app.owed? id = world.app.owed? id := by
  cases echo with
  | read frame =>
      show (echoRead info frame world.app).owed? id = _
      rw [owed?_echoRead, if_neg apart]
  | paid sendable count owes =>
      rw [pollFrame_of_owed owes]
      exact (Demo.owed?_setOwed _ _ _ _).trans (if_neg apart)
  | settled => rfl
  | quiet acts goesOn still => rfl

/-- Every event counts the frames that it reads. -/
theorem EchoTurn.counted {world : World Demo} {turn : Turn Demo}
    (echo : EchoTurn info world turn) : Demo.Counted turn.acts world.app turn.world.app := by
  cases echo with
  | read frame => exact counted_echoRead frame world.app
  | paid sendable count owes =>
      rw [pollFrame_of_owed owes]
      exact { Demo.counted_of_still
        [.polled (some (.text echoGreeting)), .sent (.text echoGreeting) sendable] world.app
        (by simp) rfl (by simp) with }
  | settled => exact Demo.counted_of_still [.polled none] world.app (by simp) rfl (by simp)
  | quiet acts goesOn still =>
      rcases still with rfl | rfl
      · exact (Demo.SameEcho.refl world.app).counted
      · exact Demo.counted_of_still [.sentClose] world.app (by simp) rfl (by simp)

end Event

/-! ### All events of a session -/

/-- Some acts turn what a session is owed into what it is owed after them: they
have sent nothing but greetings, and a frame read is a greeting sent or owed. -/
structure Account (acts : List SessionAct) (before after : Option Nat) : Prop where
  -- A sum and no difference, so that accounts compose without a case for zero.
  balance : ∀ count, before = some count → ∃ left, after = some left ∧
    (framesSent acts).length + left = (framesRead acts).length + count
  greetings : ∀ frame ∈ framesSent acts, frame = .text echoGreeting

theorem Account.trans {acts more : List SessionAct} {before between after : Option Nat}
    (account : Account acts before between) (later : Account more between after) :
    Account (acts ++ more) before after where
  balance := by
    intro count owes
    obtain ⟨middle, rest, sum⟩ := account.balance count owes
    obtain ⟨left, end_, total⟩ := later.balance middle rest
    refine ⟨left, end_, ?_⟩
    rw [framesSent_append, framesRead_append, List.length_append, List.length_append]
    omega
  greetings := by
    intro frame member
    rw [framesSent_append] at member
    exact (List.mem_append.1 member).elim (account.greetings frame) (later.greetings frame)

theorem account_of_still {acts : List SessionAct} (entry : Option Nat)
    (unread : framesRead acts = []) (unsent : framesSent acts = []) : Account acts entry entry where
  balance := fun count owes => ⟨count, owes, by rw [unread, unsent]⟩
  greetings := by simp [unsent]

section Events

variable {info : SessionInfo}

/-- The account holds over one event. -/
theorem EchoTurn.account {world : World Demo} {turn : Turn Demo}
    (echo : EchoTurn info world turn) :
    Account turn.acts (world.app.owed? info.id) (turn.world.app.owed? info.id) := by
  cases echo with
  | read frame =>
      refine { balance := fun count owes => ?_, greetings := nofun }
      have entry : (echoRead info frame world.app).owed? info.id = some (count + 1) := by
        rw [owed?_echoRead, if_pos rfl, owes, Option.getD_some]
      refine ⟨count + 1, entry, ?_⟩
      show 0 + (count + 1) = 1 + count
      omega
  | paid sendable count owes =>
      have entry : (world.app.setOwed info.id count).owed? info.id = some count :=
        (Demo.owed?_setOwed _ _ _ _).trans (if_pos rfl)
      rw [pollFrame_of_owed owes]
      refine { balance := fun owed same => ?_, greetings := fun frame => List.mem_singleton.1 }
      obtain rfl : count + 1 = owed := Option.some.inj (owes.symm.trans same)
      refine ⟨count, entry, ?_⟩
      show 1 + count = 0 + (count + 1)
      omega
  | settled => exact account_of_still _ rfl rfl
  | quiet acts goesOn still =>
      rcases still with rfl | rfl
      · exact account_of_still _ rfl rfl
      · exact account_of_still _ rfl rfl

/-- The account holds over any events. -/
theorem takeEvents_account (events : List SessionEvent) (world : World Demo) :
    Account (takeEvents echoHandler info events world).acts (world.app.owed? info.id)
      ((takeEvents echoHandler info events world).world.app.owed? info.id) := by
  -- An event leaves another world, from which the rest are taken.
  induction events generalizing world with
  | nil => exact account_of_still _ rfl rfl
  | cons event rest ih =>
      have first : Account _ (world.app.owed? info.id) _ := (echoTurn_step event world).account
      unfold takeEvents
      cases continues : (event.step echoHandler info world).goesOn with
      | true =>
          simp only [continues, if_true]
          exact first.trans (ih _)
      | false =>
          simp only [continues, Bool.false_eq_true, if_false]
          exact first

end Events

/-- One more event is taken by a session that is still open. -/
theorem takeEvents_concat {σ : Type} (handler : Handler σ) (info : SessionInfo)
    (events : List SessionEvent) (event : SessionEvent) (world : World σ)
    (goesOn : (takeEvents handler info events world).goesOn = true) :
    takeEvents handler info (events ++ [event]) world =
      let turn := takeEvents handler info events world
      let last := event.step handler info turn.world
      { last with acts := turn.acts ++ last.acts } := by
  induction events generalizing world with
  | nil =>
      simp only [List.nil_append, takeEvents, List.append_nil]
      split
      · simp [*]
      · rfl
  | cons first rest ih =>
      rw [List.cons_append]
      unfold takeEvents at goesOn ⊢
      cases continues : (first.step handler info world).goesOn with
      | true =>
          simp only [continues, if_true] at goesOn ⊢
          simp [ih _ goesOn]
      | false =>
          simp [continues] at goesOn

/-- A session of the echo protocol over some events, when no other session has
ever been there. -/
def echoAlone (info : SessionInfo) (events : List SessionEvent) : Turn Demo :=
  takeEvents echoHandler info events (openSession echoHandler info (World.initial Demo.initial))

theorem account_echoAlone (info : SessionInfo) (events : List SessionEvent) :
    Account (echoAlone info events).acts (some 0)
      ((echoAlone info events).world.app.owed? info.id) := by
  have opened : (openSession echoHandler info (World.initial Demo.initial)).app.owed? info.id =
      some 0 := by
    show (Demo.setOwed _ info.id 0).owed? info.id = _
    rw [Demo.owed?_setOwed, if_pos rfl]
  rw [← opened]
  exact takeEvents_account events _

end WebHost
