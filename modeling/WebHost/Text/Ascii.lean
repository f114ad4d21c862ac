/-
Module: WebHost.Text.Ascii
Purpose: Letter case, cutting and trimming of text, by ASCII rules.
Main exports:
  foldCase, equalFold, trimStartWhile, trimEndWhile, trimWhile,
  cutAt, cutAtText, cutAtLast
-/

namespace WebHost.Text

/-!
Header names, method names and protocol tokens compare without regard to the
case of ASCII letters.  Only the twenty-six letters fold; every other
character, accented letters included, stays as it is.

Cutting functions work on character lists, so that their laws can be stated
without byte positions.  Each of them either finds the separator and returns
what stands before and after it, or returns `none` and so says that the
separator does not occur.
-/

/-- ASCII capitals become small letters; every other character stays. -/
def foldCase (text : String) : String :=
  String.ofList (text.toList.map Char.toLower)

/-- Two texts are equal up to the case of their ASCII letters. -/
def equalFold (left right : String) : Bool :=
  left.toList.map Char.toLower == right.toList.map Char.toLower

/-- Drop the longest run of leading items that satisfy `drops`. -/
def trimStartWhile {α : Type} (drops : α → Bool) (items : List α) : List α :=
  items.dropWhile drops

/-- Drop the longest run of trailing items that satisfy `drops`. -/
def trimEndWhile {α : Type} (drops : α → Bool) (items : List α) : List α :=
  (items.reverse.dropWhile drops).reverse

/-- Trim both ends. -/
def trimWhile {α : Type} (drops : α → Bool) (items : List α) : List α :=
  trimEndWhile drops (trimStartWhile drops items)

/-- Cut at the first item equal to `separator`, which belongs to neither part. -/
def cutAt {α : Type} [DecidableEq α] (separator : α) : List α → Option (List α × List α)
  | [] => none
  | item :: rest =>
      if item = separator then
        some ([], rest)
      else
        (cutAt separator rest).map fun (before, after) => (item :: before, after)

/-- Cut at the first occurrence of a non-empty `separator` of several items. -/
def cutAtText {α : Type} [BEq α] (separator : List α) : List α → Option (List α × List α)
  | [] => none
  | item :: rest =>
      match separator.isPrefixOf? (item :: rest) with
      | some after => some ([], after)
      | none =>
          (cutAtText separator rest).map fun (before, after) => (item :: before, after)

/-- Cut at the last item equal to `separator`. -/
def cutAtLast {α : Type} [DecidableEq α] (separator : α) (items : List α) :
    Option (List α × List α) :=
  (cutAt separator items.reverse).map fun (after, before) => (before.reverse, after.reverse)

/-- A cut loses nothing but the separator, and the first part holds none. -/
theorem cutAt_eq_some_iff {α : Type} [DecidableEq α] {separator : α}
    {items before after : List α} :
    cutAt separator items = some (before, after) ↔
      items = before ++ separator :: after ∧ separator ∉ before := by
  induction items generalizing before with
  | nil => simp [cutAt]
  | cons item rest ih =>
      by_cases found : item = separator
      · subst found
        cases before with
        | nil => simp [cutAt, eq_comm]
        | cons first tail =>
            simp only [cutAt, if_true, Option.some.injEq, Prod.mk.injEq, reduceCtorEq, false_and,
              List.cons_append, List.cons.injEq, List.mem_cons, not_or, false_iff, not_and]
            intro same absent
            exact fun _ => absent same.1
      · cases before with
        | nil => simp [cutAt, found]
        | cons first tail =>
            have reversed : ¬ separator = item := fun same => found same.symm
            simp only [cutAt, if_neg found, Option.map_eq_some_iff, Prod.exists, Prod.mk.injEq,
              List.cons.injEq, List.cons_append, List.mem_cons, not_or]
            constructor
            · rintro ⟨front, back, cut, ⟨rfl, rfl⟩, rfl⟩
              exact ⟨⟨rfl, (ih.1 cut).1⟩, reversed, (ih.1 cut).2⟩
            · rintro ⟨⟨rfl, rest_eq⟩, _, absent⟩
              exact ⟨tail, after, ih.2 ⟨rest_eq, absent⟩, ⟨rfl, rfl⟩, rfl⟩

/-- There is no cut exactly when the separator does not occur. -/
theorem cutAt_eq_none_iff {α : Type} [DecidableEq α] {separator : α} {items : List α} :
    cutAt separator items = none ↔ separator ∉ items := by
  induction items with
  | nil => simp [cutAt]
  | cons item rest ih =>
      by_cases found : item = separator
      · simp [cutAt, found]
      · have reversed : ¬ separator = item := fun same => found same.symm
        simp [cutAt, found, reversed, ih]

/-- A cut at the last separator leaves none in the second part. -/
theorem cutAtLast_eq_some_iff {α : Type} [DecidableEq α] {separator : α}
    {items before after : List α} :
    cutAtLast separator items = some (before, after) ↔
      items = before ++ separator :: after ∧ separator ∉ after := by
  unfold cutAtLast
  simp only [Option.map_eq_some_iff, Prod.exists, Prod.mk.injEq, cutAt_eq_some_iff]
  constructor
  · rintro ⟨back, front, ⟨reversed, absent⟩, rfl, rfl⟩
    refine ⟨?_, by simpa using absent⟩
    rw [← List.reverse_reverse items, reversed]
    simp
  · rintro ⟨rfl, absent⟩
    exact ⟨after.reverse, before.reverse, ⟨by simp, by simpa using absent⟩, by simp, by simp⟩

theorem cutAtLast_eq_none_iff {α : Type} [DecidableEq α] {separator : α} {items : List α} :
    cutAtLast separator items = none ↔ separator ∉ items := by
  unfold cutAtLast
  rw [Option.map_eq_none_iff, cutAt_eq_none_iff, List.mem_reverse]

end WebHost.Text
