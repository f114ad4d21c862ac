/-
Module: WebHost.Proofs.Protocol.Table
Purpose: The table of protocols after any registrations, and what it chooses for a client.
Main exports:
  names_add, get?_add, FirstKnown, negotiate_of_offers, negotiate_of_none, Choice,
  negotiate_eq_iff_choice, ProtocolTable.registered, registered_protocols_chosen_by_offer
-/
import Mathlib.Data.List.Basic
import Mathlib.Tactic.Tauto
import WebHost.Proofs.Lists
import WebHost.Protocol.Table

namespace WebHost

/-!
A name enters the table with its first registration and stays where it is, while its
handler is the one registered last.  The choice for a client asks only whether a name is
in the table: the offers are gone through in the order of the client, so that it does not
matter when a protocol was registered, or by which handler it is spoken.
-/

variable {η : Type}

/-! ### One registration -/

section Addition

variable (name : String) (handler : η)

theorem names_addEntry (entries : List (String × η)) :
    (ProtocolTable.addEntry name handler entries).map (·.1) =
      if name ∈ entries.map (·.1) then entries.map (·.1) else entries.map (·.1) ++ [name] := by
  induction entries with
  | nil => rfl
  | cons entry rest ih =>
      unfold ProtocolTable.addEntry
      by_cases same : entry.1 = name
      · simp [same]
      · rw [if_neg same, List.map_cons, ih, List.map_cons]
        by_cases later : name ∈ rest.map (·.1)
        · rw [if_pos later, if_pos (List.mem_cons_of_mem _ later)]
        · have absent : name ∉ entry.1 :: rest.map (·.1) := by
            simp only [List.mem_cons, later, or_false]
            exact fun again => same again.symm
          rw [if_neg later, if_neg absent, List.cons_append]

theorem lookup_addEntry (entries : List (String × η)) (other : String) :
    (ProtocolTable.addEntry name handler entries).lookup other =
      if other = name then some handler else entries.lookup other := by
  induction entries with
  | nil => exact lookup_cons_ite name other handler []
  | cons entry rest ih =>
      obtain ⟨first, old⟩ := entry
      unfold ProtocolTable.addEntry
      split
      · rename_i same
        subst same
        rw [lookup_cons_ite, lookup_cons_ite]
        by_cases asked : other = first <;> simp [asked]
      · rename_i apart
        rw [lookup_cons_ite, lookup_cons_ite, ih]
        by_cases asked : other = first
        · simp [asked, apart]
        · simp [asked]

/-- A registration brings its own handler and no other. -/
theorem mem_addEntry {name : String} {handler : η} {entries : List (String × η)}
    {entry : String × η} (member : entry ∈ ProtocolTable.addEntry name handler entries) :
    entry.2 = handler ∨ entry ∈ entries := by
  induction entries with
  | nil =>
      rw [List.mem_singleton.1 member]
      exact Or.inl rfl
  | cons head rest ih =>
      unfold ProtocolTable.addEntry at member
      split at member
      · rcases List.mem_cons.1 member with rfl | later
        · exact Or.inl rfl
        · exact Or.inr (List.mem_cons_of_mem head later)
      · rcases List.mem_cons.1 member with rfl | later
        · exact Or.inr List.mem_cons_self
        · exact (ih later).imp id (List.mem_cons_of_mem head)

/-- A name is added at the end, unless it stands in the table. -/
theorem names_add (table : ProtocolTable η) :
    (table.add name handler).names =
      if name ∈ table.names then table.names else table.names ++ [name] :=
  names_addEntry name handler table.entries

theorem get?_add (table : ProtocolTable η) (other : String) :
    (table.add name handler).get? other =
      if other = name then some handler else table.get? other :=
  lookup_addEntry name handler table.entries other

end Addition

/-! ### The choice -/

/-- The first of some offers that a table knows. -/
def FirstKnown {η : Type} (table : ProtocolTable η) (offers : List String) (name : String) : Prop :=
  ∃ before after, offers = before ++ name :: after ∧ name ∈ table.names ∧
    ∀ other ∈ before, other ∉ table.names

/-- What a client gets for its offers where some names are known: the offer at the least
index at which one is known, and nothing if none of them is.  Only without offers does the
default count, and it has to be known as well. -/
inductive Choice (known : String → Prop) : List String → Option String → Option String → Prop where
  | offer {offers : List String} {default_ : Option String} {name : String} (index : Nat)
      (offered : offers[index]? = some name) (among : known name)
      (least : ∀ earlier < index, ∀ other, offers[earlier]? = some other → ¬ known other) :
      Choice known offers default_ (some name)
  | noOffer {offers : List String} {default_ : Option String} (offered : offers ≠ [])
      (unknown : ∀ offer ∈ offers, ¬ known offer) : Choice known offers default_ none
  | standard {name : String} (among : known name) : Choice known [] (some name) (some name)
  | noStandard {default_ : Option String}
      (unknown : ∀ name, default_ = some name → ¬ known name) : Choice known [] default_ none

/-- There is only one choice. -/
theorem Choice.unique {known : String → Prop} {offers : List String}
    {default_ first second : Option String} (one : Choice known offers default_ first)
    (two : Choice known offers default_ second) : first = second := by
  cases one with
  | offer index offered among least =>
      cases two with
      | offer other named known bound =>
          rcases Nat.lt_trichotomy index other with earlier | rfl | later
          · exact absurd among (bound index earlier _ offered)
          · exact offered.symm.trans named
          · exact absurd known (least other later _ named)
      | noOffer _ unknown => exact absurd among (unknown _ (List.mem_of_getElem? offered))
      | standard _ => cases offered
      | noStandard _ => cases offered
  | noOffer filled unknown =>
      cases two with
      | offer index offered among _ => exact absurd among (unknown _ (List.mem_of_getElem? offered))
      | noOffer _ _ => rfl
      | standard _ => exact absurd rfl filled
      | noStandard _ => rfl
  | standard among =>
      cases two with
      | offer index offered _ _ => cases offered
      | noOffer filled _ => exact absurd rfl filled
      | standard _ => rfl
      | noStandard unknown => exact absurd among (unknown _ rfl)
  | noStandard unknown =>
      cases two with
      | offer index offered _ _ => cases offered
      | noOffer _ _ => rfl
      | standard among => exact absurd among (unknown _ rfl)
      | noStandard _ => rfl

section Negotiation

variable (table : ProtocolTable η)

/-- The names of a table are those that have a handler. -/
theorem knows_iff (name : String) : table.knows name = true ↔ name ∈ table.names := by
  unfold ProtocolTable.knows ProtocolTable.get? ProtocolTable.names
  exact lookup_isSome_iff_mem_keys table.entries name

theorem exists_handler {name : String} (known : name ∈ table.names) :
    ∃ handler, table.get? name = some handler :=
  Option.isSome_iff_exists.1 ((knows_iff table name).2 known)

/-- A client that offers protocols gets the first one that the table knows. -/
theorem negotiate_of_offers {offers : List String} (offered : offers ≠ [])
    (default_ : Option String) (name : String) :
    table.negotiate offers default_ = some name ↔ FirstKnown table offers name := by
  unfold ProtocolTable.negotiate FirstKnown
  rw [if_neg offered, List.find?_eq_some_iff_append]
  simp only [knows_iff, Bool.not_eq_true', ← Bool.not_eq_true]
  constructor
  · rintro ⟨known, before, after, split, unknown⟩
    exact ⟨before, after, split, known, unknown⟩
  · rintro ⟨before, after, split, known, unknown⟩
    exact ⟨known, before, after, split, unknown⟩

/-- There is such a protocol if the table knows any of the offers. -/
theorem negotiate_isSome_of_offers {offers : List String} (offered : offers ≠ [])
    (default_ : Option String) :
    (table.negotiate offers default_).isSome = true ↔ ∃ name ∈ offers, name ∈ table.names := by
  unfold ProtocolTable.negotiate
  rw [if_neg offered, List.find?_isSome]
  simp only [knows_iff]

/-- A client that offers none gets the default, if the table knows that. -/
theorem negotiate_of_none (default_ : Option String) (name : String) :
    table.negotiate [] default_ = some name ↔ default_ = some name ∧ name ∈ table.names := by
  unfold ProtocolTable.negotiate
  rw [if_pos rfl, Option.filter_eq_some_iff, knows_iff]

theorem choice_of_firstKnown {offers : List String} {name : String}
    (first : FirstKnown table offers name) (default_ : Option String) :
    Choice (· ∈ table.names) offers default_ (some name) := by
  obtain ⟨before, after, rfl, among, unknown⟩ := first
  apply Choice.offer before.length
  · simp
  · exact among
  · intro earlier inside other named
    rw [List.getElem?_append_left inside] at named
    exact unknown other (List.mem_of_getElem? named)

/-- The table makes the choice among the names that it has. -/
theorem choice_negotiate (offers : List String) (default_ : Option String) :
    Choice (· ∈ table.names) offers default_ (table.negotiate offers default_) := by
  by_cases offered : offers = []
  · subst offered
    cases chosen : table.negotiate [] default_ with
    | none =>
        apply Choice.noStandard
        intro name given among
        rw [(negotiate_of_none table default_ name).2 ⟨given, among⟩] at chosen
        cases chosen
    | some name =>
        obtain ⟨rfl, among⟩ := (negotiate_of_none table default_ name).1 chosen
        exact Choice.standard among
  · cases chosen : table.negotiate offers default_ with
    | none =>
        apply Choice.noOffer offered
        intro name member among
        have found := (negotiate_isSome_of_offers table offered default_).2 ⟨name, member, among⟩
        rw [chosen] at found
        cases found
    | some name =>
        have first := (negotiate_of_offers table offered default_ name).1 chosen
        exact choice_of_firstKnown table first default_

theorem negotiate_eq_iff_choice {offers : List String} {default_ choice : Option String} :
    table.negotiate offers default_ = choice ↔ Choice (· ∈ table.names) offers default_ choice := by
  constructor
  · rintro rfl
    exact choice_negotiate table offers default_
  · intro chosen
    exact (choice_negotiate table offers default_).unique chosen

/-- What is chosen is in the table. -/
theorem mem_names_of_negotiate {offers : List String} {default_ : Option String} {name : String}
    (chosen : table.negotiate offers default_ = some name) : name ∈ table.names := by
  cases (negotiate_eq_iff_choice table).1 chosen with
  | offer _ _ among _ => exact among
  | standard among => exact among

/-- Tables with the same names choose alike, whoever speaks the protocols in them. -/
theorem negotiate_congr {θ : Type} {other : ProtocolTable θ}
    (same : ∀ name, name ∈ other.names ↔ name ∈ table.names) (offers : List String)
    (default_ : Option String) :
    other.negotiate offers default_ = table.negotiate offers default_ := by
  have known : (· ∈ other.names) = (· ∈ table.names) := funext fun name => propext (same name)
  apply (negotiate_eq_iff_choice other).2
  rw [known]
  exact choice_negotiate table offers default_

end Negotiation

/-! ### Any number of registrations -/

namespace ProtocolTable

/-- The table after some registrations, each of a handler under a name. -/
def registered (calls : List (String × η)) : ProtocolTable η :=
  calls.foldl (fun table call => table.add call.1 call.2) empty

theorem registered_concat (calls : List (String × η)) (call : String × η) :
    registered (calls ++ [call]) = (registered calls).add call.1 call.2 :=
  List.foldl_concat _ _ _ _

/-- The handler of a name is the one that was registered last for it. -/
theorem get?_registered (calls : List (String × η)) (name : String) :
    (registered calls).get? name = lastWritten? calls name :=
  foldl_writes get? (fun table call => get?_add call.1 call.2 table) empty (fun _ => rfl)
    calls name

theorem mem_names_registered (calls : List (String × η)) (name : String) :
    name ∈ (registered calls).names ↔ name ∈ calls.map (·.1) := by
  rw [← knows_iff, knows, get?_registered, lastWritten?_isSome_iff]

/-- The names of a table stand in the order of their first registrations. -/
theorem ordered_names_registered (calls : List (String × η)) :
    (registered calls).names.Pairwise fun name other =>
      (calls.map (·.1)).idxOf name < (calls.map (·.1)).idxOf other := by
  induction calls using List.reverseRecOn with
  | nil => exact List.Pairwise.nil
  | append_singleton calls call ih =>
      have kept : ∀ name ∈ (registered calls).names,
          ((calls ++ [call]).map (·.1)).idxOf name = (calls.map (·.1)).idxOf name := by
        intro name member
        rw [List.map_append, List.idxOf_append_of_mem ((mem_names_registered calls name).1 member)]
      have before : (registered calls).names.Pairwise fun name other =>
          ((calls ++ [call]).map (·.1)).idxOf name < ((calls ++ [call]).map (·.1)).idxOf other := by
        apply ih.imp_of_mem
        intro name other here there earlier
        rw [kept name here, kept other there]
        exact earlier
      rw [registered_concat, names_add]
      split
      · exact before
      · rename_i new
        rw [List.pairwise_append]
        refine ⟨before, List.pairwise_singleton _ _, ?_⟩
        intro name member other last
        rw [List.mem_singleton.1 last, kept name member, List.map_append,
          List.idxOf_append_of_notMem (mt (mem_names_registered calls call.1).2 new)]
        have inside := List.idxOf_lt_length_of_mem ((mem_names_registered calls name).1 member)
        omega

theorem nodup_names_registered (calls : List (String × η)) :
    (registered calls).names.Nodup := by
  apply (ordered_names_registered calls).imp
  rintro name other earlier rfl
  exact Nat.lt_irrefl _ earlier

end ProtocolTable

/-- After any registrations the names of the table are those that were registered, each
once, in the order of their first registrations, and the handler of a name is the one that
was registered last for it.  The table makes the choice among these names, so that there
is a handler for what it chooses; and a table with the same names chooses alike, in
whatever order, how often and with what handlers they were registered. -/
theorem registered_protocols_chosen_by_offer (calls : List (String × η)) :
    (ProtocolTable.registered calls).names.Nodup ∧
      let table := ProtocolTable.registered calls
      let names := calls.map (·.1)
      (∀ name, name ∈ table.names ↔ name ∈ names) ∧
        (table.names.Pairwise fun name other => names.idxOf name < names.idxOf other) ∧
        (∀ name, table.get? name = lastWritten? calls name ∧
          (table.get? name = none ↔ name ∉ names)) ∧
        (∀ offers default_ choice, table.negotiate offers default_ = choice ↔
          Choice (· ∈ table.names) offers default_ choice) ∧
        (∀ offers default_ name, table.negotiate offers default_ = some name →
          ∃ handler, table.get? name = some handler) ∧
        ∀ others : List (String × η), (∀ name, name ∈ others.map (·.1) ↔ name ∈ names) →
          ∀ offers default_, (ProtocolTable.registered others).negotiate offers default_ =
            table.negotiate offers default_ := by
  refine ⟨ProtocolTable.nodup_names_registered calls, ?_⟩
  intro table names
  have listed : ∀ name, name ∈ table.names ↔ name ∈ names :=
    ProtocolTable.mem_names_registered calls
  refine ⟨listed,
    ProtocolTable.ordered_names_registered calls, fun name => ⟨?_, ?_⟩,
    fun offers default_ choice => negotiate_eq_iff_choice table,
    fun offers default_ name chosen => exists_handler table (mem_names_of_negotiate table chosen),
    fun others same offers default_ => ?_⟩
  · exact ProtocolTable.get?_registered calls name
  · rw [← listed, ← knows_iff, ProtocolTable.knows, Option.not_isSome_iff_eq_none]
  · apply negotiate_congr table
    intro name
    rw [listed, ProtocolTable.mem_names_registered, same]

/-- The second offer of a client is chosen before its third, though that was registered
first, and a default that nobody speaks is not chosen. -/
theorem registered_protocols_chosen_by_offer_chat :
    let calls := [("echo", 1), ("chat", 2), ("echo", 3)]
    let others := [("chat", 4), ("echo", 5)]
    let table := ProtocolTable.registered calls
    (∀ name, name ∈ others.map (·.1) ↔ name ∈ calls.map (·.1)) ∧
      table.names = ["echo", "chat"] ∧ table.get? "echo" = some 3 ∧
      table.negotiate ["news", "chat", "echo"] (some "echo") = some "chat" ∧
      (∃ handler, table.get? "chat" = some handler) ∧
      (ProtocolTable.registered others).negotiate ["news", "chat", "echo"] (some "echo") =
        some "chat" ∧
      table.negotiate [] (some "news") = none := by
  intro calls others table
  have same : ∀ name, name ∈ others.map (·.1) ↔ name ∈ calls.map (·.1) := by
    intro name
    simp only [calls, others, List.map_cons, List.map_nil, List.mem_cons, List.not_mem_nil]
    tauto
  obtain ⟨-, -, -, handlers, choices, found, alike⟩ := registered_protocols_chosen_by_offer calls
  have chosen : table.negotiate ["news", "chat", "echo"] (some "echo") = some "chat" := by
    apply (choices _ _ _).2
    apply Choice.offer 1 rfl (by decide)
    intro earlier below other named
    rw [Nat.lt_one_iff.1 below] at named
    cases named
    decide
  refine ⟨same, rfl, (handlers "echo").1, chosen, found _ _ _ chosen, ?_, ?_⟩
  · rw [alike others same, chosen]
  · apply (choices _ _ _).2
    apply Choice.noStandard
    rintro name ⟨⟩
    decide

end WebHost
