/-
Module: WebHost.Proofs.Service.Registrations
Purpose: The entry points of a service, told from its registrations alone.
Main exports:
  Registration, Service.registered, EntryKey.Precedes, Service.Ordered, lookup?_registered,
  ordered_registered, Service.Ordered.ext, entry_points_follow_registrations
-/
import Mathlib.Data.List.Sort
import WebHost.Proofs.Lists
import WebHost.Proofs.Server.Invocations
import WebHost.Proofs.Text.Order

namespace WebHost

open Text

/-!
Of the registrations under one key the last one counts.  A service keeps its entry
points in the order of their keys, each key once, so that nothing else of the history
can be seen in it: services with the same entry points are the same service.
-/

variable {σ : Type}

/-! ### Registrations -/

/-- A registration of an entry point, under a method that is named or by the short form
for one method. -/
inductive Registration (σ : Type) where
  | set (path : String) (method : Method) (entry : EntryPoint σ)
  | get (path : String) (entry : EntryPoint σ)
  | post (path : String) (entry : EntryPoint σ)
  | put (path : String) (entry : EntryPoint σ)
  | delete (path : String) (entry : EntryPoint σ)

namespace Registration

/-- The method that an entry point is registered under. -/
def method : Registration σ → Method
  | .set _ method _ => method
  | .get _ _ => .get
  | .post _ _ => .post
  | .put _ _ => .put
  | .delete _ _ => .delete

/-- The path that an entry point is registered under, and the entry point. -/
def target : Registration σ → String × EntryPoint σ
  | .set path _ entry => (path, entry)
  | .get path entry => (path, entry)
  | .post path entry => (path, entry)
  | .put path entry => (path, entry)
  | .delete path entry => (path, entry)

/-- The key of a registration. -/
def key (registration : Registration σ) : EntryKey :=
  (registration.method, registration.target.1)

/-- What a registration writes: an entry point under a key. -/
def write (registration : Registration σ) : EntryKey × EntryPoint σ :=
  (registration.key, registration.target.2)

/-- Make a registration. -/
def apply (service : Service σ) (registration : Registration σ) : Service σ :=
  service.set registration.target.1 registration.method registration.target.2

end Registration

namespace Service

/-- The service with this name after some registrations. -/
def registered (name : String) (history : List (Registration σ)) : Service σ :=
  history.foldl Registration.apply (empty name)

/-- The entry point that was registered last under a key. -/
def lastEntry? (history : List (Registration σ)) (key : EntryKey) : Option (EntryPoint σ) :=
  lastWritten? (history.map Registration.write) key

/-- What a call comes to: whether an entry point was run, and the response and the state
that are left.  Where none was run, they are what they were. -/
def outcome (service : Service σ) (path : String) (request : Request) (response : Response)
    (state : σ) : Bool × Response × σ :=
  match service.call? path request response state with
  | some left => (true, left)
  | none => (false, response, state)

end Service

/-! ### The order of keys -/

namespace EntryKey

/-- A key comes before another: by the method, GET first and DELETE last, and under one
method by the bytes of the path. -/
def Precedes (key other : EntryKey) : Prop :=
  key.1.rank < other.1.rank ∨ (key.1 = other.1 ∧ encode key.2 < encode other.2)

theorem before_iff {key other : EntryKey} :
    EntryKey.before key other = true ↔ EntryKey.Precedes key other := by
  simp [EntryKey.before, EntryKey.Precedes, encode_lt_iff]

theorem rank_injective : Function.Injective Method.rank := by
  intro method other
  cases method <;> cases other <;> decide

variable {key other third : EntryKey}

theorem Precedes.trans (first : EntryKey.Precedes key other)
    (second : EntryKey.Precedes other third) : EntryKey.Precedes key third := by
  rcases first with lower | ⟨same, shorter⟩
  · rcases second with more | ⟨again, -⟩
    · exact Or.inl (Nat.lt_trans lower more)
    · exact Or.inl (again ▸ lower)
  · rcases second with lower | ⟨again, more⟩
    · exact Or.inl (same ▸ lower)
    · exact Or.inr ⟨same.trans again, List.lt_trans shorter more⟩

theorem Precedes.irrefl (key : EntryKey) : ¬ EntryKey.Precedes key key := by
  rintro (lower | ⟨-, shorter⟩)
  · exact Nat.lt_irrefl _ lower
  · exact List.lt_irrefl _ shorter

/-- Of two different keys one comes first. -/
theorem precedes_of_not_precedes (apart : key ≠ other)
    (later : ¬ EntryKey.Precedes key other) : EntryKey.Precedes other key := by
  rcases Nat.lt_trichotomy key.1.rank other.1.rank with lower | level | higher
  · exact absurd (Or.inl lower) later
  · have same : key.1 = other.1 := rank_injective level
    have paths : key.2 ≠ other.2 := fun again => apart (Prod.ext same again)
    have after : ¬ key.2 < other.2 := fun less => later (Or.inr ⟨same, encode_lt_iff.2 less⟩)
    have less : other.2 < key.2 := Std.lt_of_le_of_ne (String.not_lt.1 after) (Ne.symm paths)
    exact Or.inr ⟨same.symm, encode_lt_iff.2 less⟩
  · exact Or.inl higher

end EntryKey

/-! ### One registration -/

section Insertion

variable {key : EntryKey} {run : EntryPoint σ} {entries : List (EntryKey × EntryPoint σ)}

/-- An insertion brings its own entry and no other. -/
theorem mem_insertEntry {entry : EntryKey × EntryPoint σ}
    (member : entry ∈ Service.insertEntry key run entries) :
    entry = (key, run) ∨ entry ∈ entries := by
  induction entries with
  | nil => exact Or.inl (List.mem_singleton.1 member)
  | cons head rest ih =>
      unfold Service.insertEntry at member
      split at member
      · exact (List.mem_cons.1 member).imp id (List.mem_cons_of_mem head)
      · split at member
        · exact List.mem_cons.1 member
        · rcases List.mem_cons.1 member with rfl | later
          · exact Or.inr List.mem_cons_self
          · exact (ih later).imp id (List.mem_cons_of_mem head)

/-- An entry point is found under its key, and under other keys what stood there. -/
theorem lookup_insertEntry (other : EntryKey) :
    (Service.insertEntry key run entries).lookup other =
      if other = key then some run else entries.lookup other := by
  induction entries with
  | nil => exact lookup_cons_ite key other run []
  | cons head rest ih =>
      obtain ⟨first, old⟩ := head
      unfold Service.insertEntry
      split
      · rename_i same
        subst same
        rw [lookup_cons_ite, lookup_cons_ite]
        by_cases asked : other = key <;> simp [asked]
      · rename_i apart
        split
        · exact lookup_cons_ite key other run _
        · rw [lookup_cons_ite, lookup_cons_ite, ih]
          by_cases asked : other = first
          · simp [asked, Ne.symm apart]
          · simp [asked]

end Insertion

namespace Service

/-- The entry points of a service stand in the order of their keys. -/
def Ordered (service : Service σ) : Prop :=
  service.entries.Pairwise fun entry other => EntryKey.Precedes entry.1 other.1

variable {service : Service σ}

theorem ordered_insertEntry {key : EntryKey} {run : EntryPoint σ}
    {entries : List (EntryKey × EntryPoint σ)}
    (ordered : entries.Pairwise fun entry other => EntryKey.Precedes entry.1 other.1) :
    (insertEntry key run entries).Pairwise fun entry other =>
      EntryKey.Precedes entry.1 other.1 := by
  induction entries with
  | nil => exact List.pairwise_singleton _ _
  | cons head rest ih =>
      obtain ⟨least, above⟩ := List.pairwise_cons.1 ordered
      unfold insertEntry
      split
      · rename_i same
        subst same
        exact List.pairwise_cons.2 ⟨least, above⟩
      · rename_i apart
        split
        · rename_i before
          have start := EntryKey.before_iff.1 before
          apply List.pairwise_cons.2
          refine ⟨fun entry member => ?_, ordered⟩
          rcases List.mem_cons.1 member with rfl | later
          · exact start
          · exact start.trans (least entry later)
        · rename_i unordered
          have after : EntryKey.Precedes head.1 key :=
            EntryKey.precedes_of_not_precedes apart (mt EntryKey.before_iff.2 unordered)
          apply List.pairwise_cons.2
          refine ⟨fun entry member => ?_, ih above⟩
          rcases mem_insertEntry member with rfl | old
          · exact after
          · exact least entry old

theorem ordered_apply (ordered : service.Ordered) (registration : Registration σ) :
    (registration.apply service).Ordered :=
  ordered_insertEntry ordered

theorem lookup?_set (path : String) (method : Method) (entry : EntryPoint σ) (key : EntryKey) :
    (service.set path method entry).lookup? key.2 key.1 =
      if key = (method, path) then some entry else service.lookup? key.2 key.1 :=
  lookup_insertEntry key

/-! ### Histories -/

/-- The entry point under a key is the one that was registered last there. -/
theorem lookup?_registered (name : String) (history : List (Registration σ)) (path : String)
    (method : Method) :
    (registered name history).lookup? path method = lastEntry? history (method, path) := by
  have one : ∀ (service : Service σ) (write : EntryKey × EntryPoint σ) (key : EntryKey),
      (service.set write.1.2 write.1.1 write.2).lookup? key.2 key.1 =
        if key = write.1 then some write.2 else service.lookup? key.2 key.1 :=
    fun service write key => lookup?_set write.1.2 write.1.1 write.2 key
  have writes := foldl_writes (fun service key => service.lookup? key.2 key.1) one (empty name)
    (fun _ => rfl) (history.map Registration.write) (method, path)
  rw [List.foldl_map] at writes
  exact writes

theorem ordered_registered (name : String) (history : List (Registration σ)) :
    (registered name history).Ordered := by
  unfold registered
  induction history using List.reverseRecOn with
  | nil => exact List.Pairwise.nil
  | append_singleton history registration ih =>
      rw [List.foldl_concat]
      exact ordered_apply ih registration

theorem name_registered (name : String) (history : List (Registration σ)) :
    (registered name history).name = name := by
  unfold registered
  induction history using List.reverseRecOn with
  | nil => rfl
  | append_singleton history registration ih =>
      rw [List.foldl_concat]
      exact ih

/-! ### What can be seen of a service -/

theorem hasEntry_iff (path : String) (method : Method) :
    service.hasEntry path method = true ↔ (method, path) ∈ service.keys :=
  lookup_isSome_iff_mem_keys service.entries (method, path)

theorem Ordered.keys (ordered : service.Ordered) :
    service.keys.Pairwise EntryKey.Precedes :=
  List.pairwise_map.2 ordered

theorem Ordered.distinct (ordered : service.Ordered) : service.keys.Nodup := by
  apply ordered.keys.imp
  rintro key other before rfl
  exact EntryKey.Precedes.irrefl key before

/-- Services of one name that find the same entry points are the same. -/
theorem Ordered.ext {other : Service σ} (ordered : service.Ordered) (too : other.Ordered)
    (named : service.name = other.name)
    (same : ∀ path method, service.lookup? path method = other.lookup? path method) :
    service = other := by
  have antisymmetric : Std.Antisymm fun entry other : EntryKey × EntryPoint σ =>
      EntryKey.Precedes entry.1 other.1 :=
    ⟨fun entry _ before after => absurd (before.trans after) (EntryKey.Precedes.irrefl entry.1)⟩
  have irreflexive : Std.Irrefl fun entry other : EntryKey × EntryPoint σ =>
      EntryKey.Precedes entry.1 other.1 :=
    ⟨fun entry => EntryKey.Precedes.irrefl entry.1⟩
  have entries : service.entries = other.entries := by
    apply List.Pairwise.eq_of_mem_iff ordered too
    rintro ⟨⟨method, path⟩, run⟩
    rw [← lookup_eq_some_iff_mem ordered.distinct, ← lookup_eq_some_iff_mem too.distinct]
    exact Eq.congr_left (same path method)
  cases service
  cases other
  cases named
  cases entries
  rfl

theorem outcome_eq (path : String) (request : Request) (response : Response) (state : σ) :
    service.outcome path request response state =
      match service.lookup? path request.method with
      | some run => (true, run request response state)
      | none => (false, response, state) := by
  unfold outcome call?
  cases service.lookup? path request.method <;> rfl

/-- A call adds one line to the log of the application if it runs an entry point, and none
if it does not. -/
theorem outcome_logged (path : String) (request : Request) (response : Response) (state : σ)
    (log : List Invocation) :
    service.logged.outcome path request response (state, log) =
      let left := service.outcome path request response state
      (left.1, left.2.1, left.2.2,
        if left.1 then log ++ [.entry service.name path request] else log) := by
  rw [outcome_eq, outcome_eq, lookup?_logged]
  cases service.lookup? path request.method <;> rfl

/-! ### Histories that are mixed differently -/

/-- Two histories have the same registrations under each key, in the same order.  How
those of different keys are mixed is left open. -/
def SameUnderKeys (history other : List (Registration σ)) : Prop :=
  ∀ key, other.filter (·.key = key) = history.filter (·.key = key)

theorem lastEntry?_congr {history other : List (Registration σ)}
    (same : SameUnderKeys history other) (key : EntryKey) :
    lastEntry? other key = lastEntry? history key := by
  have writes : ∀ registrations : List (Registration σ),
      (registrations.map Registration.write).filter (·.1 = key) =
        (registrations.filter (·.key = key)).map Registration.write := fun _ => List.filter_map
  unfold lastEntry? lastWritten?
  rw [writes, writes, same key]

theorem registered_congr (name : String) {history other : List (Registration σ)}
    (same : SameUnderKeys history other) : registered name other = registered name history := by
  apply (ordered_registered name other).ext (ordered_registered name history)
  · rw [name_registered, name_registered]
  · intro path method
    rw [lookup?_registered, lookup?_registered, lastEntry?_congr same]

theorem mem_keys_registered (name : String) (history : List (Registration σ)) (key : EntryKey) :
    key ∈ (registered name history).keys ↔ key ∈ history.map Registration.key := by
  have found : (registered name history).hasEntry key.2 key.1 = true ↔
      key ∈ (registered name history).keys := hasEntry_iff key.2 key.1
  rw [hasEntry, lookup?_registered, lastEntry?, lastWritten?_isSome_iff, List.map_map] at found
  exact found.symm

end Service

/-! ### What the registrations tell -/

/-- After any registrations a service has an entry point under the keys that were
registered, and under no others.  A call runs the one that was registered last for the
method of the request at the path, once, and otherwise leaves everything as it was.  The
keys are listed once each, by the method and then by the bytes of the path.  If the
registrations come in another order, but those under one key in the same, the service is
the same. -/
theorem entry_points_follow_registrations (name : String) (history : List (Registration σ)) :
    let service := Service.registered name history
    let keys := history.map Registration.key
    (∀ path method, service.hasEntry path method = true ↔ (method, path) ∈ keys) ∧
      (∀ path request response state,
        service.outcome path request response state =
            (match Service.lastEntry? history (request.method, path) with
              | some run => (true, run request response state)
              | none => (false, response, state)) ∧
          ((service.outcome path request response state).1 = true ↔
            (request.method, path) ∈ keys) ∧
          ∀ log, service.logged.outcome path request response (state, log) =
            let left := service.outcome path request response state
            (left.1, left.2.1, left.2.2,
              if left.1 then log ++ [.entry name path request] else log)) ∧
      (∀ key, service.keys.count key = if key ∈ keys then 1 else 0) ∧
      service.keys.Pairwise EntryKey.Precedes ∧
      ∀ other, Service.SameUnderKeys history other → Service.registered name other = service := by
  intro service keys
  have ordered : service.Ordered := Service.ordered_registered name history
  have listed : ∀ key, key ∈ service.keys ↔ key ∈ keys := Service.mem_keys_registered name history
  refine ⟨fun path method => ?_, fun path request response state => ⟨?_, ?_, fun log => ?_⟩,
    fun key => ?_, ordered.keys, fun other same => Service.registered_congr name same⟩
  · rw [Service.hasEntry_iff]
    exact listed (method, path)
  · rw [Service.outcome_eq, Service.lookup?_registered]
  · rw [Service.outcome_eq, ← listed, ← Service.hasEntry_iff, Service.hasEntry]
    cases service.lookup? path request.method <;> simp
  · rw [Service.outcome_logged, Service.name_registered]
  · rw [ordered.distinct.count]
    simp only [listed]

/-- Of two entry points at one key the second answers, wherever the registration of
another key stands between them. -/
theorem entry_points_follow_registrations_replaced :
    let answer : String → EntryPoint Nat := fun text _ response calls =>
      (response.setPlainContent text, calls + 1)
    let history := [.put "item" (answer "first"), .get "item" (answer "got"),
      Registration.set "item" .put (answer "second")]
    let other := [.put "item" (answer "first"), Registration.set "item" .put (answer "second"),
      .get "item" (answer "got")]
    let service := Service.registered "svc" history
    Service.SameUnderKeys history other ∧ Service.registered "svc" other = service ∧
      service.keys = [(.get, "item"), (.put, "item")] ∧
      service.outcome "item" (.ofUrl "/svc/item" .put) .initial 0 =
        (true, Response.initial.setPlainContent "second", 1) ∧
      service.outcome "item" (.ofUrl "/svc/item" .delete) .initial 0 = (false, .initial, 0) := by
  intro answer history other service
  have same : Service.SameUnderKeys history other := by
    intro key
    by_cases put : (Method.put, "item") = key
    · subst put
      rfl
    · by_cases get : (Method.get, "item") = key
      · subst get
        rfl
      · simp [history, other, Registration.key, Registration.method, Registration.target, put, get]
  obtain ⟨-, calls, -, -, reordered⟩ := entry_points_follow_registrations "svc" history
  exact ⟨same, reordered other same, rfl, (calls _ _ _ _).1, (calls _ _ _ _).1⟩

end WebHost
