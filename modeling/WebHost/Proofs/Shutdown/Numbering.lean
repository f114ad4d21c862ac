/-
Module: WebHost.Proofs.Shutdown.Numbering
Purpose: What stands under the numbers that a group gives to its receivers and waits.
Main exports:
  Listed, Listed.append, Listed.set, Listed.exists_record, Listed.countP_eq,
  ShutdownGroup.memberAt, ShutdownGroup.stepMember_of_known, ShutdownGroup.waitAt?,
  ShutdownGroup.step_poll, ShutdownGroup.step_wait
-/
import WebHost.Proofs.Shutdown.Subscriptions

namespace WebHost

/-!
A group numbers the receivers of all its shutdowns in the order in which they were
made, and each shutdown numbers its own.  So a number of the group stands for a
shutdown and a place there; the places at one shutdown have come in their order, and
none was left out.  It is the same with waits.
-/

/-! ### Numbers across several lists -/

section Listing

variable {α β : Type}

/-- What is shown under the numbers that were given across several lists: each number
stands for a list and a place in it, and the places of a list are numbered in their
order. -/
structure Listed (view : Option α → β) (items : Nat → List α) (places : List (Nat × Nat))
    (shown : List (Nat × β)) : Prop where
  numbered : ∀ owner,
    (places.filter (·.1 = owner)).map (·.2) = List.range (items owner).length
  distinct : places.Nodup
  same : shown = places.map fun place => (place.1, view (items place.1)[place.2]?)

namespace Listed

variable {view : Option α → β} {items : Nat → List α} {places : List (Nat × Nat)}
  {shown : List (Nat × β)} {owner place number : Nat}

theorem empty (view : Option α → β) : Listed view (fun _ => []) [] [] :=
  ⟨fun _ => rfl, List.nodup_nil, rfl⟩

/-- There is an item at every place. -/
theorem lt_of_mem (listed : Listed view items places shown) (member : (owner, place) ∈ places) :
    place < (items owner).length := by
  have here : place ∈ (places.filter (·.1 = owner)).map (·.2) :=
    List.mem_map.2 ⟨(owner, place), List.mem_filter.2 ⟨member, by simp⟩, rfl⟩
  rwa [listed.numbered, List.mem_range] at here

/-- Something is shown exactly under the numbers that were given. -/
theorem getElem?_shown (listed : Listed view items places shown) (number : Nat) :
    shown[number]? =
      (places[number]?).map fun place => (place.1, view (items place.1)[place.2]?) := by
  rw [listed.same, List.getElem?_map]

section Records

variable {γ : Type} {records : List γ} {shows : γ → Nat × β}

/-- Under a number that was given there are an item and the record that shows it. -/
theorem exists_record (listed : Listed view items places (records.map shows))
    (given : places[number]? = some (owner, place)) :
    ∃ item record, (items owner)[place]? = some item ∧ records[number]? = some record ∧
      shows record = (owner, view (some item)) := by
  have inside := listed.lt_of_mem (List.mem_of_getElem? given)
  have here := List.getElem?_eq_getElem inside
  have shown := listed.getElem?_shown number
  rw [given, Option.map_some, here, List.getElem?_map, Option.map_eq_some_iff] at shown
  obtain ⟨record, noted, same⟩ := shown
  exact ⟨_, record, here, noted, same⟩

/-- There is no record under a number that was not given. -/
theorem record_eq_none (listed : Listed view items places (records.map shows))
    (absent : places[number]? = none) : records[number]? = none := by
  have shown := listed.getElem?_shown number
  rwa [absent, Option.map_none, List.getElem?_map, Option.map_eq_none_iff] at shown

end Records

/-- A list that stays as it is. -/
theorem kept (listed : Listed view items places shown) (owner : Nat) :
    Listed view (Function.update items owner (items owner)) places shown := by
  rwa [Function.update_eq_self]

/-- A new item at the end of a list has the next number. -/
theorem append (listed : Listed view items places shown) (owner : Nat) (item : α) :
    Listed view (Function.update items owner (items owner ++ [item]))
      (places ++ [(owner, (items owner).length)]) (shown ++ [(owner, view (some item))]) where
  numbered := by
    intro other
    rw [List.filter_append, List.map_append, listed.numbered]
    by_cases own : other = owner
    · subst own
      simp [List.range_succ]
    · simp [own, Ne.symm own]
  distinct := by
    refine List.nodup_append.2 ⟨listed.distinct, by simp, ?_⟩
    rintro place member _ new rfl
    rw [List.mem_singleton.1 new] at member
    exact Nat.lt_irrefl _ (listed.lt_of_mem member)
  same := by
    rw [List.map_append, listed.same]
    congr 1
    · refine List.map_congr_left fun place member => ?_
      by_cases own : place.1 = owner
      · have inside : place.2 < (items place.1).length := listed.lt_of_mem member
        rw [own] at inside
        simp [own, List.getElem?_append_left inside]
      · simp [own]
    · simp

/-- An item that takes the place of another is shown under the number of that place. -/
theorem set (listed : Listed view items places shown)
    (given : places[number]? = some (owner, place)) (item : α) :
    Listed view (Function.update items owner ((items owner).set place item)) places
      (shown.set number (owner, view (some item))) where
  numbered := by
    intro other
    rw [listed.numbered]
    by_cases own : other = owner
    · subst own
      simp
    · simp [own]
  distinct := listed.distinct
  same := by
    obtain ⟨inside, here⟩ := List.getElem?_eq_some_iff.1 given
    have filled := listed.lt_of_mem (List.mem_of_getElem? given)
    refine List.ext_getElem? fun other => ?_
    rw [List.getElem?_set, listed.getElem?_shown, List.getElem?_map]
    by_cases own : number = other
    · subst own
      have shows : number < shown.length := by rw [listed.same, List.length_map]; exact inside
      simp [shows, given, filled]
    · rw [if_neg own]
      refine Option.map_congr fun slot found => ?_
      -- Another number stands for another place.
      have apart : slot ≠ (owner, place) := by
        rintro rfl
        exact own ((List.getElem?_inj inside listed.distinct).1 (given.trans found.symm))
      by_cases beside : slot.1 = owner
      · have elsewhere : place ≠ slot.2 := fun same => apart (Prod.ext beside same.symm)
        simp [beside, List.getElem?_set_ne elsewhere]
      · simp [beside]

/-- What is shown of one list under the numbers across all of them. -/
theorem countP_eq (listed : Listed view items places shown) (owner : Nat) (counts : β → Bool) :
    shown.countP (fun entry => entry.1 = owner && counts entry.2) =
      (items owner).countP fun item => counts (view (some item)) := by
  have own : ∀ place : Nat × Nat,
      (decide (place.1 = owner) && counts (view (items place.1)[place.2]?)) =
        (counts (view (items owner)[place.2]?) && decide (place.1 = owner)) := by
    intro place
    by_cases here : place.1 = owner
    · simp [here]
    · simp [here]
  have all : (List.range (items owner).length).map (fun place => (items owner)[place]?) =
      (items owner).map some := by
    refine List.ext_getElem? fun place => ?_
    by_cases inside : place < (items owner).length
    · simp [inside]
    · simp [inside]
  calc shown.countP (fun entry => entry.1 = owner && counts entry.2)
      = places.countP fun place => counts (view (items owner)[place.2]?) && place.1 = owner := by
        rw [listed.same, List.countP_map]
        exact List.countP_congr fun place _ => by simp [own]
    _ = (((places.filter (·.1 = owner)).map (·.2)).map fun place => (items owner)[place]?).countP
          (fun item => counts (view item)) := by
        rw [← List.countP_filter, List.countP_map, List.countP_map]
        rfl
    _ = (items owner).countP fun item => counts (view (some item)) := by
        rw [listed.numbered, all, List.countP_map]
        rfl

end Listed

end Listing

/-! ### The shutdowns of a group -/

namespace ShutdownGroup

/-- The tasks at a shutdown of a group.  There are none where no shutdown is made yet. -/
def memberAt (group : ShutdownGroup) (member : Nat) : Tasks :=
  (group.members[member]?).getD .initial

variable {group : ShutdownGroup} {member : Nat}

theorem getElem?_members (known : member < group.members.length) :
    group.members[member]? = some (group.memberAt member) := by
  simp [memberAt, known]

theorem reachable_memberAt (reachable : group.Reachable) (member : Nat) :
    (group.memberAt member).Reachable := by
  unfold memberAt
  cases found : group.members[member]? with
  | none => exact .initial
  | some tasks => exact reachable_members reachable tasks (List.mem_of_getElem? found)

/-- Tasks that have something are at a shutdown that is made. -/
theorem lt_of_memberAt_ne (busy : group.memberAt member ≠ .initial) :
    member < group.members.length := by
  by_contra outside
  exact busy (by simp [memberAt, List.getElem?_eq_none (Nat.not_lt.1 outside)])

theorem lt_of_wait {place : Nat} {held : TaskWait}
    (found : (group.memberAt member).waits[place]? = some held) :
    member < group.members.length := by
  refine lt_of_memberAt_ne fun idle => ?_
  simp [idle, Tasks.initial] at found

theorem lt_of_receiver {place : Nat} {slot : Option ReceiverId}
    (found : (group.memberAt member).receivers[place]? = some slot) :
    member < group.members.length := by
  refine lt_of_memberAt_ne fun idle => ?_
  simp [idle, Tasks.initial] at found

/-- A step at a shutdown changes the tasks there and no others. -/
theorem stepMember_of_known (known : member < group.members.length) (made : TaskStep) :
    group.stepMember member made =
      (((group.memberAt member).step made).1,
        { group with
          members := group.members.set member ((group.memberAt member).step made).2 }) := by
  rw [stepMember, getElem?_members known]

theorem memberAt_set (known : member < group.members.length) (tasks : Tasks) (other : Nat) :
    ((group.members.set member tasks)[other]?).getD .initial =
      Function.update group.memberAt member tasks other := by
  by_cases own : other = member
  · subst own
    simp [known]
  · simp [List.getElem?_set_ne (Ne.symm own), own, memberAt]

/-- A shutdown that is just made has no tasks, as before. -/
theorem memberAt_new (group : ShutdownGroup) (other : Nat) :
    ((group.members ++ [Tasks.initial])[other]?).getD .initial = group.memberAt other := by
  by_cases inside : other < group.members.length
  · rw [List.getElem?_append_left inside, memberAt]
  · have outside := Nat.not_lt.1 inside
    rw [memberAt, List.getElem?_eq_none outside, List.getElem?_append_right outside]
    cases other - group.members.length <;> rfl

/-- How far a wait of a group has come, and at which shutdown. -/
def waitAt? (group : ShutdownGroup) (wait : Nat) : Option (Nat × TaskWait) :=
  (group.waits[wait]?).bind fun place =>
    ((group.memberAt place.1).waits[place.2]?).map fun held => (place.1, held)

theorem waitAt?_eq_some_iff {wait : Nat} {held : TaskWait} :
    group.waitAt? wait = some (member, held) ↔
      ∃ place, group.waits[wait]? = some (member, place) ∧
        (group.memberAt member).waits[place]? = some held := by
  constructor
  · intro stands
    obtain ⟨⟨owner, place⟩, given, there⟩ := Option.bind_eq_some_iff.1 stands
    obtain ⟨found, holds, same⟩ := Option.map_eq_some_iff.1 there
    obtain ⟨rfl, rfl⟩ := Prod.mk.inj same
    exact ⟨place, given, holds⟩
  · rintro ⟨place, given, holds⟩
    simp [waitAt?, given, holds]

/-- A poll reaches the wait at its shutdown. -/
theorem step_poll {wait place : Nat} {held : TaskWait}
    (given : group.waits[wait]? = some (member, place))
    (found : (group.memberAt member).waits[place]? = some held) :
    (group.step (.poll wait)).1 =
        .task (Tasks.pollHeld (group.memberAt member).shutdown held).1 ∧
      ((group.step (.poll wait)).2.memberAt member).shutdown =
        (Tasks.pollHeld (group.memberAt member).shutdown held).2.2 := by
  have known := lt_of_wait found
  have polled := stepMember_of_known known (.pollWait place)
  have there := memberAt_set known ((group.memberAt member).step (.pollWait place)).2 member
  simp only [Tasks.step, found] at polled there
  simp only [step, stepWait, given, polled]
  refine ⟨trivial, ?_⟩
  rw [memberAt, there, Function.update_self]

/-- A wait that is made and polled is polled at the shutdown of the handle. -/
theorem step_wait {handle : Nat} (given : group.handles[handle]? = some member)
    (known : member < group.members.length) :
    (group.step (.atHandle handle .wait)).1 =
        .task (Tasks.pollHeld (group.memberAt member).shutdown .idle).1 ∧
      ((group.step (.atHandle handle .wait)).2.memberAt member).shutdown =
        (Tasks.pollHeld (group.memberAt member).shutdown .idle).2.2 := by
  have begun := stepMember_of_known known .beginWait
  have there := memberAt_set known ((group.memberAt member).step .beginWait).2 member
  simp only [Tasks.step] at begun there
  simp only [step, given, stepHandle, begun]
  refine ⟨trivial, ?_⟩
  rw [memberAt, there, Function.update_self]

end ShutdownGroup

end WebHost
