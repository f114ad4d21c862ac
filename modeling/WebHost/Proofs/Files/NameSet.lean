/-
Module: WebHost.Proofs.Files.NameSet
Purpose: Sets of names are in the order of their bytes and know only their members.
Main exports:
  Increasing, mem_insertName, increasing_insertName, mem_ofList, increasing_ofList,
  NameSet.ofList_congr
-/
import Mathlib.Data.List.Sort
import WebHost.Files.Resource
import WebHost.Proofs.Text.Order

namespace WebHost

open Text

/-!
A name is put where it belongs, once.  So the names of a set stand in the order
of their bytes whatever order they came in, and two sets with the same members
are the same.
-/

namespace NameSet

/-- Each name comes before those after it, byte by byte. -/
def Increasing (names : List String) : Prop :=
  names.Pairwise fun one other => encode one < encode other

variable {name other : String} {names : List String}

theorem mem_insertName : other ∈ insertName name names ↔ other = name ∨ other ∈ names := by
  induction names with
  | nil => simp [insertName]
  | cons first rest ih =>
      unfold insertName
      split
      · rename_i same
        subst same
        simp
      · split
        · simp
        · rw [List.mem_cons, ih, List.mem_cons, or_left_comm]

theorem increasing_insertName (sorted : Increasing names) : Increasing (insertName name names) := by
  induction names with
  | nil => exact List.pairwise_singleton _ _
  | cons first rest ih =>
      obtain ⟨least, above⟩ := List.pairwise_cons.1 sorted
      unfold insertName
      split
      · exact sorted
      · rename_i apart
        split
        · rename_i before
          have start : encode name < encode first := encode_lt_iff.2 before
          refine List.pairwise_cons.2 ⟨fun later member => ?_, sorted⟩
          rcases List.mem_cons.1 member with rfl | among
          · exact start
          · exact List.lt_trans start (least later among)
        · rename_i unordered
          have after : first < name :=
            Std.lt_of_le_of_ne (String.not_lt.1 unordered) (Ne.symm apart)
          refine List.pairwise_cons.2 ⟨fun later member => ?_, ih above⟩
          rcases mem_insertName.1 member with rfl | among
          · exact encode_lt_iff.2 after
          · exact least later among

theorem mem_foldl_insert {set : NameSet} :
    other ∈ (names.foldl insert set).names ↔ other ∈ names ∨ other ∈ set.names := by
  induction names generalizing set with
  | nil => simp
  | cons first rest ih =>
      have inserted : other ∈ (set.insert first).names ↔ other = first ∨ other ∈ set.names :=
        mem_insertName
      rw [List.foldl_cons, ih, inserted, List.mem_cons, or_left_comm, or_assoc]

theorem increasing_foldl_insert {set : NameSet} (sorted : Increasing set.names) :
    Increasing (names.foldl insert set).names := by
  induction names generalizing set with
  | nil => exact sorted
  | cons first rest ih => exact ih (increasing_insertName sorted)

/-- The members of a set are the names that it was made of. -/
theorem mem_ofList : other ∈ (ofList names).names ↔ other ∈ names := by
  unfold ofList
  rw [mem_foldl_insert]
  exact or_iff_left List.not_mem_nil

theorem increasing_ofList (names : List String) : Increasing (ofList names).names :=
  increasing_foldl_insert List.Pairwise.nil

theorem eq_of_increasing {others : List String} (sorted : Increasing names)
    (ordered : Increasing others) (same : ∀ name, name ∈ names ↔ name ∈ others) :
    names = others := by
  have antisymmetric : Std.Antisymm fun one other : String => encode one < encode other :=
    ⟨fun one other before after => absurd after (List.lt_asymm before)⟩
  have irreflexive : Std.Irrefl fun one other : String => encode one < encode other :=
    ⟨fun name before => List.lt_irrefl _ before⟩
  exact List.Pairwise.eq_of_mem_iff sorted ordered same

/-- The order and the repetition of names do not matter. -/
theorem ofList_congr {others : List String} (same : ∀ name, name ∈ others ↔ name ∈ names) :
    ofList others = ofList names := by
  have members : ∀ name, name ∈ (ofList others).names ↔ name ∈ (ofList names).names := by
    intro name
    rw [mem_ofList, mem_ofList]
    exact same name
  exact congrArg NameSet.mk
    (eq_of_increasing (increasing_ofList others) (increasing_ofList names) members)

end NameSet

end WebHost
