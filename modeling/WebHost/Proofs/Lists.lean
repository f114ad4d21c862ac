/-
Module: WebHost.Proofs.Lists
Purpose: Lists that serve as tables, by key or by place, and lists of steps and writes.
Main exports:
  lookup_cons_ite, lookup_isSome_iff_mem_keys, lookup_eq_some_iff_mem, lookup_filter_ne,
  filter_ne_of_lookup, exists_split_of_lookup, slots_set, slots_append,
  modify_of_getElem?, filterMap_perm_of_getElem?, filterMap_set_perm, foldl_getLastD,
  foldl_filter_of_idle, lastWritten?, lastWritten?_isSome_iff, foldl_writes_or,
  foldl_writes
-/
import Mathlib.Data.List.Induction
import Mathlib.Data.List.Perm.Basic
import Mathlib.Logic.Function.Basic

namespace WebHost

/-! ### Entries with a key -/

section Entries

variable {κ α : Type}

section Finding

variable [BEq κ] [LawfulBEq κ] {entries : List (κ × α)} {key : κ} {value : α}

/-- The first entry of a table is found under its key, the others under other keys. -/
theorem lookup_cons_ite [DecidableEq κ] (first key : κ) (value : α) (rest : List (κ × α)) :
    ((first, value) :: rest).lookup key = if key = first then some value else rest.lookup key := by
  rw [List.lookup_cons]
  by_cases same : key = first
  · simp [same]
  · simp [same, beq_false_of_ne same]

/-- The keys of a table are those with an entry. -/
theorem lookup_isSome_iff_mem_keys (entries : List (κ × α)) (key : κ) :
    (entries.lookup key).isSome = true ↔ key ∈ entries.map (·.1) := by
  rw [List.lookup_isSome_iff, List.mem_map]
  constructor
  · rintro ⟨entry, member, same⟩
    exact ⟨entry, member, (beq_iff_eq.1 same).symm⟩
  · rintro ⟨entry, member, rfl⟩
    exact ⟨entry, member, beq_self_eq_true _⟩

/-- Under distinct keys, every entry is found. -/
theorem lookup_eq_some_iff_mem (distinct : (entries.map (·.1)).Nodup) :
    entries.lookup key = some value ↔ (key, value) ∈ entries := by
  constructor
  · intro found
    obtain ⟨before, after, same, -⟩ := List.lookup_eq_some_iff.1 found
    simp [same]
  · intro member
    induction entries with
    | nil => cases member
    | cons entry rest ih =>
        obtain ⟨absent, distinct⟩ := List.nodup_cons.1 distinct
        rcases List.mem_cons.1 member with rfl | later
        · exact List.lookup_cons_self
        · have apart : key ≠ entry.1 := by
            rintro rfl
            exact absent (List.mem_map.2 ⟨_, later, rfl⟩)
          rw [List.lookup_cons, beq_false_of_ne apart]
          exact ih distinct later

end Finding

section Removal

variable [DecidableEq κ] (entries : List (κ × α))

theorem lookup_filter_ne (id key : κ) :
    (entries.filter (·.1 ≠ id)).lookup key = if key = id then none else entries.lookup key := by
  induction entries with
  | nil => simp
  | cons entry rest ih =>
      obtain ⟨first, value⟩ := entry
      by_cases here : first = id
      · subst here
        rw [List.filter_cons_of_neg (by simp), ih]
        by_cases same : key = first
        · simp [same]
        · simp [same, List.lookup_cons, beq_false_of_ne same]
      · rw [List.filter_cons_of_pos (by simpa using here), List.lookup_cons, List.lookup_cons, ih]
        by_cases same : key = first
        · subst same
          simp [here]
        · simp [beq_false_of_ne same]

variable {entries : List (κ × α)} {key : κ} {value : α}

/-- There is nothing to take out under a key without an entry. -/
theorem filter_ne_of_lookup (absent : entries.lookup key = none) :
    entries.filter (·.1 ≠ key) = entries := by
  apply List.filter_eq_self.2
  intro entry member
  have apart : key ≠ entry.1 := bne_iff_ne.1 (List.lookup_eq_none_iff.1 absent entry member)
  exact decide_eq_true apart.symm

/-- Under distinct keys, what is found with a key is all that is taken out with it. -/
theorem exists_split_of_lookup (distinct : (entries.map (·.1)).Nodup)
    (found : entries.lookup key = some value) :
    ∃ before after, entries = before ++ (key, value) :: after ∧
      entries.filter (·.1 ≠ key) = before ++ after := by
  obtain ⟨before, after, rfl, early⟩ := List.lookup_eq_some_iff.1 found
  rw [List.map_append, List.map_cons, List.nodup_append, List.nodup_cons] at distinct
  have front : before.filter (·.1 ≠ key) = before :=
    filter_ne_of_lookup (List.lookup_eq_none_iff.2 early)
  have back : after.filter (·.1 ≠ key) = after := by
    apply List.filter_eq_self.2
    intro entry member
    apply decide_eq_true
    rintro rfl
    exact distinct.2.1.1 (List.mem_map.2 ⟨entry, member, rfl⟩)
  refine ⟨before, after, rfl, ?_⟩
  rw [List.filter_append, List.filter_cons_of_neg (by simp), front, back]

end Removal

end Entries

/-! ### Numbered places -/

section Slots

variable {α β : Type} (f : Option α → β) (list : List α)

theorem slots_set (place : Nat) (value : α) (inside : place < list.length) :
    (fun slot => f (list.set place value)[slot]?) =
      Function.update (fun slot => f list[slot]?) place (f (some value)) := by
  funext slot
  by_cases here : slot = place
  · subst here
    simp [inside]
  · simp [List.getElem?_set_ne (Ne.symm here), Function.update_of_ne here]

theorem slots_append (value : α) :
    (fun slot => f (list ++ [value])[slot]?) =
      Function.update (fun slot => f list[slot]?) list.length (f (some value)) := by
  funext slot
  by_cases here : slot = list.length
  · subst here
    simp
  · have same : (list ++ [value])[slot]? = list[slot]? := by
      rw [List.getElem?_append]
      split
      · rfl
      · rw [List.getElem?_eq_none (by simp; omega), List.getElem?_eq_none (by omega)]
    simp [same, Function.update_of_ne here]

end Slots

/-- A change at a place with a value puts the changed value there. -/
theorem modify_of_getElem? {α : Type} {list : List α} {place : Nat} {value : α}
    (found : list[place]? = some value) (change : α → α) :
    list.modify place change = list.set place (change value) := by
  rw [List.modify_eq_set_getElem?, found]
  rfl

section Places

variable {α β : Type} (f : α → Option β) {list : List α} {place : Nat} {value : α}

/-- What the items of a list give is what one of them gives and what the others give. -/
theorem filterMap_perm_of_getElem? (found : list[place]? = some value) :
    (list.filterMap f).Perm ((f value).toList ++ (list.eraseIdx place).filterMap f) := by
  obtain ⟨inside, rfl⟩ := List.getElem?_eq_some_iff.1 found
  have apart := (List.getElem_cons_eraseIdx_perm inside).symm.filterMap f
  rw [List.filterMap_cons] at apart
  cases gives : f list[place] with
  | none => simpa [gives] using apart
  | some given => simpa [gives] using apart

theorem filterMap_set_perm (inside : place < list.length) (value : α) :
    ((list.set place value).filterMap f).Perm
      ((f value).toList ++ (list.eraseIdx place).filterMap f) := by
  have found : (list.set place value)[place]? = some value := by simp [inside]
  simpa [List.eraseIdx_set_eq] using filterMap_perm_of_getElem? f found

end Places

/-! ### Steps one after the other -/

section Steps

variable {σ α β : Type} {step : σ → α → σ}

/-- If a step sets a part of the state or leaves it, then of many steps the last that
sets the part decides. -/
theorem foldl_getLastD {view : σ → β} {set? : α → Option β}
    (one : ∀ state item, view (step state item) = (set? item).getD (view state))
    (items : List α) (state : σ) :
    view (items.foldl step state) = (items.filterMap set?).getLastD (view state) := by
  induction items generalizing state with
  | nil => rfl
  | cons item rest ih =>
      rw [List.foldl_cons, ih, one]
      cases sets : set? item with
      | none => rw [List.filterMap_cons_none sets, Option.getD_none]
      | some value => rw [List.filterMap_cons_some sets, Option.getD_some, List.getLastD_cons]

/-- Steps that change nothing can be left out. -/
theorem foldl_filter_of_idle {kept : α → Bool} {items : List α}
    (idle : ∀ item ∈ items, kept item = false → ∀ state, step state item = state) (state : σ) :
    (items.filter kept).foldl step state = items.foldl step state := by
  induction items generalizing state with
  | nil => rfl
  | cons item rest ih =>
      obtain ⟨here, there⟩ := List.forall_mem_cons.1 idle
      cases keeps : kept item with
      | true => rw [List.filter_cons_of_pos keeps, List.foldl_cons, List.foldl_cons, ih there]
      | false =>
          rw [List.filter_cons_of_neg (by simp [keeps]), List.foldl_cons, here keeps, ih there]

end Steps

/-! ### Writes under a key -/

section Writes

variable {σ κ α : Type} [DecidableEq κ]

/-- The value that was written last under a key. -/
def lastWritten? (writes : List (κ × α)) (key : κ) : Option α :=
  (writes.filter (·.1 = key)).getLast?.map (·.2)

theorem lastWritten?_concat (writes : List (κ × α)) (write : κ × α) (key : κ) :
    lastWritten? (writes ++ [write]) key =
      if key = write.1 then some write.2 else lastWritten? writes key := by
  rw [lastWritten?, List.filter_append]
  by_cases same : write.1 = key
  · simp [same]
  · simp [lastWritten?, same, Ne.symm same]

/-- Something was written last under a key if anything was written there. -/
theorem lastWritten?_isSome_iff (writes : List (κ × α)) (key : κ) :
    (lastWritten? writes key).isSome = true ↔ key ∈ writes.map (·.1) := by
  rw [lastWritten?, Option.isSome_map, List.getLast?_isSome, ne_eq, List.filter_eq_nil_iff,
    List.mem_map]
  simp

section Folds

variable (view : σ → κ → Option α) {step : σ → κ × α → σ}
  (one : ∀ state write key,
    view (step state write) key = if key = write.1 then some write.2 else view state key)
include one

/-- If each write replaces what is seen under its key and touches no other, then after many
writes what is seen under a key is what was written last there, or else what was seen before. -/
theorem foldl_writes_or (start : σ) (writes : List (κ × α)) (key : κ) :
    view (writes.foldl step start) key = (lastWritten? writes key).or (view start key) := by
  induction writes using List.reverseRecOn with
  | nil => rfl
  | append_singleton writes write ih =>
      rw [List.foldl_append, List.foldl_cons, List.foldl_nil, one, ih, lastWritten?_concat]
      split <;> rfl

/-- Where nothing is seen before, only what was written last is seen. -/
theorem foldl_writes (start : σ) (nothing : ∀ key, view start key = none)
    (writes : List (κ × α)) (key : κ) :
    view (writes.foldl step start) key = lastWritten? writes key := by
  rw [foldl_writes_or view one, nothing, Option.or_none]

end Folds

end Writes

end WebHost
