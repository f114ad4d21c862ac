/-
Module: WebHost.Proofs.Session.Accounts
Purpose: The accounts of the echo protocol in every run, however its sessions
  interleave.
Main exports:
  Phase.isOpen, Course.isOpen_iff, EchoOnly, LikeAlone, moves_likeAlone, EchoInvariant,
  reachable_echo, EchoAccount, EchoInvariant.account, EchoTotals
-/
import WebHost.Proofs.Session.Echo
import WebHost.Proofs.Session.Record

namespace WebHost

/-!
Each session of the echo protocol acts as if it were alone, and its entry in the
shared table is what it would be then.  Every move of a session keeps that: its
own move, because what an event does depends on its own entry only, and the move
of another session, because that leaves the entry as it is.  The accounts of all
sessions follow from the account of one.
-/

variable {ρ : Type}

/-- The handler has been told of the opening, and not yet of the closing. -/
def Phase.isOpen : Phase → Bool
  | .running | .leaving | .removed => true
  | _ => false

theorem Course.opened_iff {phase : Phase} {life : List Happening} (course : Course phase life) :
    .opened ∈ actsOf life ↔ phase.begun = true := by
  cases begun : phase.begun with
  | false => simp [course.eq_nil begun, actsOf]
  | true =>
      obtain ⟨exchanges, calls, -⟩ := (course.lifeCycle begun).calls
      have called : .opened ∈ callsOf life := by simp [calls]
      exact iff_of_true (List.mem_filter.1 called).1 rfl

theorem Course.closed_iff {phase : Phase} {life : List Happening} (course : Course phase life) :
    .closed ∈ actsOf life ↔ phase = .ended := by
  refine ⟨course.ended_of_closed, ?_⟩
  rintro rfl
  obtain ⟨left, -, rfl⟩ := course
  simp

/-- A session is open between the two calls that say so. -/
theorem Course.isOpen_iff {phase : Phase} {life : List Happening} (course : Course phase life) :
    phase.isOpen = true ↔ .opened ∈ actsOf life ∧ .closed ∉ actsOf life := by
  rw [course.opened_iff, course.closed_iff]
  cases phase <;> decide

/-- All sessions speak the echo protocol, and nothing but they touches what it
remembers. -/
structure EchoOnly (around : Environment Demo ρ) : Prop where
  changes : ∀ {before label after}, around.changes before label after →
    before.app.SameEcho after.app
  accepts : ∀ {before label info handler after}, around.accepts before label info handler after →
    handler = echoHandler ∧ before.app.SameEcho after.app

theorem Demo.SameEcho.owed? {one other : Demo} (same : one.SameEcho other) (id : SessionId) :
    other.owed? id = one.owed? id := by
  rw [Demo.owed?, same.owed, Demo.owed?]

/-! ### Every session acts as if it were alone -/

/-- What a session has done, and what it is owed, is what it would be if it were
alone with its events. -/
structure LikeAlone (info : SessionInfo) (phase : Phase) (life : List Happening)
    (entry : Option Nat) : Prop where
  acts : phase.begun = true →
    actsOf life = .opened :: ((echoAlone info (eventsOf life)).acts ++ phase.closing)
  owed : entry =
    if phase.isOpen then (echoAlone info (eventsOf life)).world.app.owed? info.id else none
  goesOn : phase = .running → (echoAlone info (eventsOf life)).goesOn = true

section Moves

variable {info : SessionInfo} {phase next : Phase} {world after : World Demo}
  {life happened : List Happening}

theorem LikeAlone.took (alone : LikeAlone info .running life (world.app.owed? info.id))
    (event : SessionEvent) (isOpen : next.isOpen = true)
    (goesOn : next = .running → (event.step echoHandler info world).goesOn = true) :
    LikeAlone info next (life ++ turnOf event (event.step echoHandler info world).acts)
      ((event.step echoHandler info world).world.app.owed? info.id) := by
  have still : next.closing = [] := by
    cases next with
    | ended => cases isOpen
    | _ => rfl
  -- The run alone is still open too, so it takes the same event next.
  have taken := takeEvents_concat echoHandler info (eventsOf life) event
    (openSession echoHandler info (World.initial Demo.initial)) (alone.goesOn rfl)
  change echoAlone info (eventsOf life ++ [event]) = _ at taken
  have same : world.app.owed? info.id =
      (echoAlone info (eventsOf life)).world.app.owed? info.id := alone.owed
  obtain ⟨acts, continues, owed⟩ := echo_step_congr event same
  have earlier := alone.acts rfl
  refine { acts := fun _ => ?_, owed := ?_, goesOn := fun running => ?_ }
  · rw [actsOf_append, actsOf_turnOf, eventsOf_append, eventsOf_turnOf, taken, earlier, acts, still]
    simp [echoAlone, Phase.closing]
  · rw [if_pos isOpen, eventsOf_append, eventsOf_turnOf, taken]
    exact owed
  · rw [eventsOf_append, eventsOf_turnOf, taken]
    exact continues.symm.trans (goesOn running)

/-- Every move of a session is the one it would make if it were alone. -/
theorem moves_likeAlone (moves : Moves echoHandler info phase world next after happened)
    (course : Course phase life)
    (alone : LikeAlone info phase life (world.app.owed? info.id)) :
    LikeAlone info next (life ++ happened) (after.app.owed? info.id) := by
  cases moves with
  | register => exact { acts := nofun, owed := alone.owed, goesOn := nofun }
  | announce =>
      have unheard : life = [] := course
      subst unheard
      refine { acts := fun _ => rfl, owed := ?_, goesOn := fun _ => rfl }
      show (Demo.setOwed _ info.id 0).owed? info.id = (Demo.setOwed _ info.id 0).owed? info.id
      rw [Demo.owed?_setOwed, Demo.owed?_setOwed, if_pos rfl, if_pos rfl]
  | goesOn event world continues => exact alone.took event rfl fun _ => continues
  | stops event world ends => exact alone.took event rfl nofun
  | unregister =>
      rw [List.append_nil]
      exact { acts := fun _ => alone.acts rfl, owed := alone.owed, goesOn := nofun }
  | farewell =>
      refine { acts := fun _ => ?_, owed := ?_, goesOn := nofun }
      · rw [actsOf_append, actsOf_did, eventsOf_append, eventsOf_did, alone.acts rfl]
        simp [Phase.closing]
      · show (Demo.forget _ info.id).owed? info.id = none
        rw [Demo.owed?_forget, if_pos rfl]

/-- No move of a session changes what another one is owed. -/
theorem moves_others (moves : Moves echoHandler info phase world next after happened)
    {id : SessionId} (apart : id ≠ info.id) : after.app.owed? id = world.app.owed? id := by
  cases moves with
  | register => rfl
  | announce =>
      show (Demo.setOwed _ info.id 0).owed? id = _
      rw [Demo.owed?_setOwed, if_neg apart]
      rfl
  | goesOn event world continues => exact (echoTurn_step event world).others apart
  | stops event world ends => exact (echoTurn_step event world).others apart
  | unregister => rfl
  | farewell =>
      show (Demo.forget _ info.id).owed? id = _
      rw [Demo.owed?_forget, if_neg apart]
      rfl

/-- Every move counts the calls that it makes. -/
theorem moves_counted (moves : Moves echoHandler info phase world next after happened) :
    Demo.Counted (actsOf happened) world.app after.app := by
  cases moves with
  | register => exact (Demo.SameEcho.refl world.app).counted
  | announce =>
      exact { opened := rfl, frames := rfl, closed := rfl, texts := (List.append_nil _).symm }
  | goesOn event world continues =>
      rw [actsOf_turnOf]
      exact (echoTurn_step event world).counted
  | stops event world ends =>
      rw [actsOf_turnOf]
      exact (echoTurn_step event world).counted
  | unregister => exact (Demo.SameEcho.refl world.app).counted
  | farewell =>
      exact { opened := rfl, frames := rfl, closed := rfl, texts := (List.append_nil _).symm }

end Moves

/-! ### The invariant -/

/-- What holds of the echo protocol in every run: each session is like alone, no
other number is owed anything, and the counters agree with the history. -/
structure EchoInvariant (system : System Demo ρ) : Prop where
  sessions : SystemInvariant system
  handled : ∀ id task, system.tasks id = some task → task.handler = echoHandler
  alone : ∀ id task, system.tasks id = some task →
    LikeAlone task.info task.phase (system.life id) (system.world.app.owed? id)
  unowed : ∀ id, system.tasks id = none → system.world.app.owed? id = none
  counted : Demo.Counted system.acts Demo.initial system.world.app

section Steps

variable {around : Environment Demo ρ} {system next : System Demo ρ}

theorem start_echo :
    EchoInvariant (System.start (World.initial Demo.initial) : System Demo ρ) where
  sessions := start_invariant fun _ _ => rfl
  handled := nofun
  alone := nofun
  unowed := fun _ _ => rfl
  counted := (Demo.SameEcho.refl Demo.initial).counted

theorem change_echo (only : EchoOnly around) (holds : EchoInvariant system) {label : ρ}
    {world : World Demo} (changed : around.changes system.world label world) :
    EchoInvariant
      { system with world := world, history := system.history ++ [.around label] } := by
  have same := only.changes changed
  refine {
    sessions := change_invariant holds.sessions changed
    handled := holds.handled
    alone := fun id task found => ?_
    unowed := fun id absent => (same.owed? id).trans (holds.unowed id absent)
    counted := ?_ }
  · rw [System.life_around, same.owed?]
    exact holds.alone id task found
  · rw [System.acts_around, ← List.append_nil system.acts]
    exact holds.counted.trans same.counted

theorem accept_echo (only : EchoOnly around) (holds : EchoInvariant system) {label : ρ}
    {info : SessionInfo} {handler : Handler Demo} {world : World Demo}
    (accepted : around.accepts system.world label info handler world) :
    EchoInvariant
      (system.put { info := info, handler := handler, phase := .accepted } world
        [.around label]) := by
  obtain ⟨rfl, same⟩ := only.accepts accepted
  obtain ⟨named, -, -⟩ := around.accepts_registry accepted
  -- The number has not been given out before, so nothing is owed under it.
  obtain ⟨unborn, -⟩ := (holds.sessions.sessions info.id).fresh (Nat.le_of_eq named.symm)
  refine {
    sessions := accept_invariant holds.sessions accepted
    handled := fun id task found => ?_
    alone := fun id task found => ?_
    unowed := fun id absent => ?_
    counted := ?_ }
  · rcases System.tasks_put_eq_some found with ⟨-, rfl⟩ | ⟨-, earlier⟩
    · rfl
    · exact holds.handled id task earlier
  · rcases System.tasks_put_eq_some found with ⟨rfl, rfl⟩ | ⟨-, earlier⟩
    · have entry := (same.owed? info.id).trans (holds.unowed info.id unborn)
      exact { acts := nofun, owed := entry, goesOn := nofun }
    · rw [System.life_put_around]
      exact (same.owed? id) ▸ holds.alone id task earlier
  · obtain ⟨-, unknown⟩ := System.tasks_put_eq_none absent
    exact (same.owed? id).trans (holds.unowed id unknown)
  · rw [System.acts_put_around, ← List.append_nil system.acts]
    exact holds.counted.trans same.counted

theorem move_echo (holds : EchoInvariant system) {task : SessionTask Demo} {phase : Phase}
    {world : World Demo} {happened : List Happening}
    (found : system.tasks task.info.id = some task)
    (moves : Moves task.handler task.info task.phase system.world phase world happened) :
    EchoInvariant
      (system.put { task with phase := phase } world
        (happened.map fun happening =>
          .session task.info.id happening system.world.registry)) := by
  have course := (holds.sessions.sessions task.info.id).course task found
  have alone := holds.alone task.info.id task found
  have sessions := move_invariant holds.sessions found moves
  obtain ⟨info, handler, before⟩ := task
  obtain rfl : handler = echoHandler := holds.handled info.id _ found
  have life := system.life_put_own { info := info, handler := echoHandler, phase := phase }
    world happened system.world.registry
  have acts := system.acts_put_own { info := info, handler := echoHandler, phase := phase }
    world happened system.world.registry
  dsimp only at life acts
  refine {
    sessions := sessions
    handled := fun id other same => ?_
    alone := fun id other same => ?_
    unowed := fun id absent => ?_
    counted := ?_ }
  · rcases System.tasks_put_eq_some same with ⟨-, rfl⟩ | ⟨-, earlier⟩
    · rfl
    · exact holds.handled id other earlier
  · rcases System.tasks_put_eq_some same with ⟨rfl, rfl⟩ | ⟨apart, earlier⟩
    · rw [life]
      exact moves_likeAlone moves course alone
    · rw [System.life_put_other _ _ _ _ _ apart]
      exact (moves_others moves apart) ▸ holds.alone id other earlier
  · obtain ⟨apart, unknown⟩ := System.tasks_put_eq_none absent
    exact (moves_others moves apart).trans (holds.unowed id unknown)
  · rw [acts]
    exact holds.counted.trans (moves_counted moves)

/-- Every step keeps the invariant. -/
theorem step_echo (only : EchoOnly around) (holds : EchoInvariant system)
    (step : Step around system next) : EchoInvariant next := by
  cases step with
  | change label world changed => exact change_echo only holds changed
  | accept label info handler world accepted => exact accept_echo only holds accepted
  | move task phase world happened found moves => exact move_echo holds found moves

/-- So every run has it. -/
theorem reachable_echo (only : EchoOnly around)
    (reachable : Reachable around (System.start (World.initial Demo.initial)) system) :
    EchoInvariant system := by
  induction reachable with
  | refl => exact start_echo
  | step _ step holds => exact step_echo only holds step

end Steps

/-! ### The accounts -/

/-- The account of a session: it has been sent greetings only and no more of them
than it has read frames, it is owed the others as long as it is open, it is sent
one at a tick exactly if it is owed one, and all of that is as if no other
session were there. -/
structure EchoAccount (system : System Demo ρ) (id : SessionId) : Prop where
  sent_le : (framesSent (actsOf (system.life id))).length ≤
    (framesRead (actsOf (system.life id))).length
  greetings : ∀ frame ∈ framesSent (actsOf (system.life id)), frame = .text echoGreeting
  owed : system.world.app.owed? id =
    if .opened ∈ actsOf (system.life id) ∧ .closed ∉ actsOf (system.life id) then
      some ((framesRead (actsOf (system.life id))).length -
        (framesSent (actsOf (system.life id))).length)
    else
      none
  tick : ∀ task, system.tasks id = some task → task.phase = .running → ∀ sendable,
    ((SessionEvent.tick sendable).step task.handler task.info system.world).acts =
      if (framesSent (actsOf (system.life id))).length <
          (framesRead (actsOf (system.life id))).length then
        [.polled (some (.text echoGreeting)), .sent (.text echoGreeting) sendable]
      else
        [.polled none]
  alone : ∀ task, system.tasks id = some task → task.phase.begun = true →
    actsOf (system.life id) =
      .opened :: ((echoAlone task.info (eventsOf (system.life id))).acts ++ task.phase.closing)

theorem LikeAlone.account {info : SessionInfo} {phase : Phase} {life : List Happening}
    {entry : Option Nat} (alone : LikeAlone info phase life entry) (course : Course phase life) :
    Account (actsOf life) (some 0)
      ((echoAlone info (eventsOf life)).world.app.owed? info.id) := by
  cases begun : phase.begun with
  | false =>
      rw [course.eq_nil begun]
      exact account_echoAlone info []
  | true =>
      have opening : Account [.opened] (some 0) (some 0) := account_of_still _ rfl rfl
      have closing (left : Option Nat) : Account phase.closing left left := by
        unfold Phase.closing
        split <;> exact account_of_still left rfl rfl
      rw [alone.acts begun]
      exact opening.trans ((account_echoAlone info (eventsOf life)).trans (closing _))

theorem EchoInvariant.account {system : System Demo ρ} (holds : EchoInvariant system)
    (id : SessionId) : EchoAccount system id := by
  cases found : system.tasks id with
  | none =>
      have silent := (holds.sessions.sessions id).silent found
      have unowed := holds.unowed id found
      constructor <;> simp [silent, unowed, actsOf, framesSent, found]
  | some task =>
      have course := (holds.sessions.sessions id).course task found
      have named := (holds.sessions.sessions id).named task found
      have alone := holds.alone id task found
      obtain ⟨left, entry, sum⟩ := (alone.account course).balance 0 rfl
      have owed : system.world.app.owed? id = if task.phase.isOpen then some left else none := by
        rw [← entry]
        exact alone.owed
      refine {
        sent_le := by omega
        greetings := (alone.account course).greetings
        owed := ?_
        tick := ?_
        alone := ?_ }
      · have due : (framesRead (actsOf (system.life id))).length -
            (framesSent (actsOf (system.life id))).length = left := by omega
        rw [owed, due]
        by_cases isOpen : task.phase.isOpen = true
        · rw [if_pos isOpen, if_pos (course.isOpen_iff.1 isOpen)]
        · rw [if_neg isOpen, if_neg fun called => isOpen (course.isOpen_iff.2 called)]
      · intro other same running sendable
        rw [found] at same
        cases same
        have owes : system.world.app.owed? task.info.id = some left := by
          rw [named, owed, running]
          rfl
        rw [holds.handled id task found]
        simp only [SessionEvent.step]
        cases left with
        | zero =>
            rw [pollFrame_of_settled (by simp [owes])]
            exact (if_neg (by omega)).symm
        | succ count =>
            rw [pollFrame_of_owed owes]
            exact (if_pos (by omega)).symm
      · intro other same begun
        rw [found] at same
        cases same
        exact alone.acts begun

/-- The totals of the echo protocol are those of the calls that all sessions have
made. -/
structure EchoTotals (system : System Demo ρ) : Prop where
  opened : system.world.app.opened = system.acts.count .opened
  frames : system.world.app.frames = (framesRead system.acts).length
  closed : system.world.app.closed = system.acts.count .closed
  texts : system.world.app.texts = (framesRead system.acts).filterMap Frame.text?

theorem EchoInvariant.totals {system : System Demo ρ} (holds : EchoInvariant system) :
    EchoTotals system where
  opened := holds.counted.opened.trans (Nat.zero_add _)
  frames := holds.counted.frames.trans (Nat.zero_add _)
  closed := holds.counted.closed.trans (Nat.zero_add _)
  texts := holds.counted.texts

/-- A session has read the frames that came to it. -/
theorem EchoInvariant.reads {system : System Demo ρ} (holds : EchoInvariant system)
    (id : SessionId) : framesRead (actsOf (system.life id)) =
      (eventsOf (system.life id)).filterMap SessionEvent.frame? := by
  cases found : system.tasks id with
  | none =>
      rw [(holds.sessions.sessions id).silent found]
      rfl
  | some task =>
      have course := (holds.sessions.sessions id).course task found
      cases begun : task.phase.begun with
      | true => exact (course.lifeCycle begun).reads
      | false =>
          rw [course.eq_nil begun]
          rfl

end WebHost
