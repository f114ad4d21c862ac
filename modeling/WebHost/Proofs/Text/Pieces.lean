/-
Module: WebHost.Proofs.Text.Pieces
Purpose: The pieces between separators, and what trimming leaves of them.
Main exports:
  not_mem_of_mem_splitOn, mem_intercalate_iff, mem_iff_of_splitOn, splitOn_map,
  PiecesOf, piecesOf_iff, trimEndWhile_append, trimEndWhile_eq_iff, trimWhile_map,
  trimWhile_congr, trimWhile_eq_nil_iff, cutAtText_isSome_iff, infix_append_iff, CutsFirst,
  cutAtText_eq_some_iff
-/
import Mathlib.Data.List.Basic
import Mathlib.Data.List.TakeWhile
import WebHost.Proofs.Text.Length

namespace WebHost.Text

/-!
A list is its pieces with a separator between them, and no piece holds the
separator.  That fixes the pieces, so they go along with every renaming of items
that keeps the separator apart; and so does what trimming leaves of a piece.
-/

variable {α β : Type}

/-! ### Pieces -/

/-- What is joined holds the items of its pieces and separators. -/
theorem mem_intercalate_iff {separator item : α} (apart : item ≠ separator)
    {pieces : List (List α)} :
    item ∈ [separator].intercalate pieces ↔ ∃ piece ∈ pieces, item ∈ piece := by
  induction pieces with
  | nil => simp
  | cons first rest ih =>
      cases rest with
      | nil => simp
      | cons second others =>
          rw [List.intercalate_cons_cons, List.mem_append, List.mem_append, ih]
          simp [apart]

section Pieces

variable [DecidableEq α] {separator : α} {items : List α}

/-- No piece of a split holds the item that was split at. -/
theorem not_mem_of_mem_splitOn {piece : List α} (member : piece ∈ items.splitOn separator) :
    separator ∉ piece := by
  induction items generalizing piece with
  | nil =>
      rw [List.splitOn_nil, List.mem_singleton] at member
      simp [member]
  | cons item rest ih =>
      rw [List.splitOn_cons_eq_if_modifyHead] at member
      by_cases found : item = separator
      · rw [if_pos (by simpa using found), List.mem_cons] at member
        rcases member with rfl | member
        · simp
        · exact ih member
      · rw [if_neg (by simpa using found)] at member
        cases pieces : rest.splitOn separator with
        | nil => exact absurd pieces (List.splitOn_ne_nil separator rest)
        | cons first others =>
            rw [pieces, List.modifyHead_cons, List.mem_cons] at member
            rcases member with rfl | member
            · have absent : separator ∉ first := ih (by simp [pieces])
              simp [absent, Ne.symm found]
            · exact ih (by simp [pieces, member])

/-- An item other than the separator is in a list if it is in one of its pieces. -/
theorem mem_iff_of_splitOn {item : α} (apart : item ≠ separator) :
    item ∈ items ↔ ∃ piece ∈ items.splitOn separator, item ∈ piece := by
  rw [← mem_intercalate_iff apart, List.intercalate_splitOn]

theorem mem_of_mem_piece {piece : List α} (among : piece ∈ items.splitOn separator) {item : α}
    (member : item ∈ piece) : item ∈ items := by
  have apart : item ≠ separator := by
    rintro rfl
    exact not_mem_of_mem_splitOn among member
  exact (mem_iff_of_splitOn apart).2 ⟨piece, among, member⟩

/-- A renaming that keeps items apart takes pieces to pieces. -/
theorem splitOn_map [DecidableEq β] {rename : α → β} (injective : Function.Injective rename)
    (separator : α) (items : List α) :
    (items.map rename).splitOn (rename separator) =
      (items.splitOn separator).map (List.map rename) := by
  have joined : items.map rename =
      [rename separator].intercalate ((items.splitOn separator).map (List.map rename)) := by
    have whole : [separator].intercalate (items.splitOn separator) = items :=
      List.intercalate_splitOn separator
    conv => lhs; rw [← whole]
    generalize items.splitOn separator = pieces
    induction pieces with
    | nil => rfl
    | cons first rest ih =>
        cases rest with
        | nil => simp
        | cons second others =>
            rw [List.intercalate_cons_cons, List.map_append, List.map_append, ih]
            exact List.intercalate_cons_cons.symm
  rw [joined]
  apply List.splitOn_intercalate
  · intro piece member inside
    obtain ⟨original, among, rfl⟩ := List.mem_map.1 member
    obtain ⟨item, held, same⟩ := List.mem_map.1 inside
    exact not_mem_of_mem_splitOn among (injective same ▸ held)
  · simp [List.splitOn, List.splitOnP_ne_nil]

end Pieces

/-- A cut at a run of items is found just where that run stands. -/
theorem cutAtText_isSome_iff [BEq α] [LawfulBEq α] {part : List α} (nonempty : part ≠ [])
    (items : List α) : (cutAtText part items).isSome = true ↔ part <:+: items := by
  induction items with
  | nil => simp [cutAtText, nonempty]
  | cons first rest ih =>
      rw [List.infix_cons_iff, ← ih, cutAtText]
      cases found : part.isPrefixOf? (first :: rest) with
      | some after =>
          have leads : part <+: first :: rest := by
            rw [List.isPrefixOf?_eq_some_iff_append_eq] at found
            exact ⟨after, found⟩
          simp [leads]
      | none =>
          have other : ¬ part <+: first :: rest := by
            rintro ⟨after, split⟩
            rw [← List.isPrefixOf?_eq_some_iff_append_eq] at split
            rw [split] at found
            cases found
          simp [other]

/-- A run of items does not begin where its first item is absent. -/
theorem infix_append_iff {first : α} {part front back : List α} (absent : first ∉ front) :
    first :: part <:+: front ++ back ↔ first :: part <:+: back := by
  induction front with
  | nil => rfl
  | cons item rest ih =>
      rw [List.mem_cons, not_or] at absent
      have apart : ¬ first :: part <+: item :: (rest ++ back) :=
        fun leads => absent.1 (List.cons_prefix_cons.1 leads).1
      rw [List.cons_append, List.infix_cons_iff, or_iff_right apart, ih absent.2]

/-- A list is cut at the first place where a part stands, which belongs to neither
side. -/
structure CutsFirst (part items before after : List α) : Prop where
  joined : items = before ++ part ++ after
  first : ∀ front back, items = front ++ part ++ back → before.length ≤ front.length

theorem cutAtText_eq_some_iff [BEq α] [LawfulBEq α] {part : List α} (nonempty : part ≠ [])
    {items before after : List α} :
    cutAtText part items = some (before, after) ↔ CutsFirst part items before after := by
  induction items generalizing before with
  | nil =>
      refine iff_of_false (by simp [cutAtText]) fun cuts => ?_
      have joined := cuts.joined
      simp [nonempty] at joined
  | cons item rest ih =>
      rw [cutAtText]
      cases found : part.isPrefixOf? (item :: rest) with
      | some tail =>
          rw [List.isPrefixOf?_eq_some_iff_append_eq] at found
          simp only [Option.some.injEq, Prod.mk.injEq]
          constructor
          · rintro ⟨rfl, rfl⟩
            exact ⟨found.symm, fun front back _ => Nat.zero_le _⟩
          · intro cuts
            obtain rfl : [] = before :=
              (List.eq_nil_of_length_eq_zero (Nat.le_zero.1 (cuts.first [] tail found.symm))).symm
            exact ⟨rfl, List.append_cancel_left (found.trans cuts.joined)⟩
      | none =>
          have other : ∀ back, item :: rest ≠ part ++ back := by
            intro back leads
            rw [List.isPrefixOf?_eq_some_iff_append_eq.2 leads.symm] at found
            cases found
          simp only [Option.map_eq_some_iff, Prod.exists, Prod.mk.injEq]
          constructor
          · rintro ⟨front, back, cut, rfl, rfl⟩
            obtain ⟨joined, first⟩ := ih.1 cut
            refine ⟨by rw [joined]; rfl, fun early late split => ?_⟩
            cases early with
            | nil => exact absurd split (other late)
            | cons _ early =>
                exact Nat.succ_le_succ (first early late (List.cons.inj split).2)
          · rintro ⟨joined, first⟩
            cases before with
            | nil => exact absurd joined (other after)
            | cons head before =>
                obtain ⟨rfl, others⟩ := List.cons.inj joined
                refine ⟨before, after, ih.2 ⟨others, fun early late split => ?_⟩, rfl, rfl⟩
                exact Nat.le_of_succ_le_succ (first (item :: early) late (by rw [split]; rfl))

/-- What holds no first item of a part stands before the first place of the part. -/
theorem cutsFirst_of_not_mem {first : α} {part before : List α} (absent : first ∉ before)
    (after : List α) :
    CutsFirst (first :: part) (before ++ first :: part ++ after) before after where
  joined := rfl
  first := by
    intro front back split
    refine Nat.not_lt.1 fun shorter => absent ?_
    have here : (before ++ first :: part ++ after)[front.length]? = some first := by
      rw [split]
      simp
    rw [List.append_assoc, List.getElem?_append_left shorter] at here
    exact List.mem_of_getElem? here

/-- Parts of a text: it is some pieces with a separator between them, no piece holds
the separator, and those pieces that are kept are the parts. -/
def PiecesOf (separator : Char) (kept : List Char → Prop) [DecidablePred kept] (text : String)
    (parts : List String) : Prop :=
  ∃ pieces : List (List Char), pieces ≠ [] ∧ (∀ piece ∈ pieces, separator ∉ piece) ∧
    text.toList = [separator].intercalate pieces ∧
    parts = (pieces.filter fun piece => kept piece).map String.ofList

/-- Splitting finds the parts, and there are no others. -/
theorem piecesOf_iff {separator : Char} {kept : List Char → Prop} [DecidablePred kept]
    {text : String} {parts : List String} :
    PiecesOf separator kept text parts ↔
      ((text.toList.splitOn separator).filter fun piece => kept piece).map String.ofList =
        parts := by
  constructor
  · rintro ⟨pieces, nonempty, apart, joined, rfl⟩
    rw [joined, List.splitOn_intercalate separator apart nonempty]
  · rintro rfl
    exact ⟨text.toList.splitOn separator, List.splitOn_ne_nil separator text.toList,
      fun piece among => not_mem_of_mem_splitOn among,
      (List.intercalate_splitOn separator).symm, rfl⟩

/-! ### What trimming leaves -/

section Trimming

variable {drops : α → Bool} {items : List α}

theorem mem_of_mem_trimWhile {item : α} (member : item ∈ trimWhile drops items) : item ∈ items := by
  obtain ⟨before, after, parts, -, -⟩ := exists_trimWhile drops items
  rw [parts]
  exact List.mem_append_right _ (List.mem_append_left _ member)

/-- Trimming the end stops at a run in which everything stays. -/
theorem trimEndWhile_append {core : List α} (stays : ∀ item ∈ core, drops item = false)
    (rest : List α) : trimEndWhile drops (core ++ rest) = core ++ trimEndWhile drops rest := by
  have kept : core.reverse.dropWhile drops = core.reverse :=
    dropWhile_of_head? fun item found =>
      stays item (List.mem_reverse.1 (List.mem_of_mem_head? found))
  unfold trimEndWhile
  rw [List.reverse_append, List.dropWhile_append]
  split
  · rename_i gone
    rw [kept, List.isEmpty_iff.1 gone, List.reverse_reverse, List.reverse_nil, List.append_nil]
  · rw [List.reverse_append, List.reverse_reverse]

/-- Trimming the end drops all there is to drop, and no more. -/
theorem trimEndWhile_eq_iff {core : List α} :
    trimEndWhile drops items = core ↔ ∃ ending, items = core ++ ending ∧
      (∀ item ∈ ending, drops item = true) ∧
      ∀ item, core.getLast? = some item → drops item = false := by
  unfold trimEndWhile
  constructor
  · rintro rfl
    refine ⟨(items.reverse.takeWhile drops).reverse, ?_, ?_, ?_⟩
    · rw [← List.reverse_append, List.takeWhile_append_dropWhile, List.reverse_reverse]
    · exact fun item member =>
        List.all_eq_true.1 List.all_takeWhile item (List.mem_reverse.1 member)
    · intro item last
      rw [List.getLast?_reverse] at last
      have stays := List.head?_dropWhile_not drops items.reverse
      rw [last] at stays
      simpa using stays
  · rintro ⟨ending, rfl, trailing, stays⟩
    have kept : core.reverse.dropWhile drops = core.reverse :=
      dropWhile_of_head? fun item found => stays item (by rwa [List.head?_reverse] at found)
    rw [List.reverse_append, List.dropWhile_append_of_pos
      fun item member => trailing item (List.mem_reverse.1 member), kept, List.reverse_reverse]

/-- Nothing is left just when everything is dropped. -/
theorem trimWhile_eq_nil_iff : trimWhile drops items = [] ↔ ∀ item ∈ items, drops item = true := by
  constructor
  · intro gone
    obtain ⟨before, after, parts, leading, trailing⟩ := exists_trimWhile drops items
    rw [gone] at parts
    rw [parts]
    intro item member
    rcases List.mem_append.1 member with front | back
    · exact leading item front
    · exact trailing item back
  · intro all
    have start : items.dropWhile drops = [] := List.dropWhile_eq_nil_iff.2 all
    simp [trimWhile, trimStartWhile, trimEndWhile, start]

theorem trimWhile_map (rename : β → α) (items : List β) :
    trimWhile drops (items.map rename) = (trimWhile (drops ∘ rename) items).map rename := by
  unfold trimWhile trimEndWhile trimStartWhile
  rw [List.dropWhile_map, ← List.map_reverse, List.dropWhile_map, List.map_reverse]

theorem dropWhile_congr {other : α → Bool} (same : ∀ item ∈ items, drops item = other item) :
    items.dropWhile drops = items.dropWhile other := by
  induction items with
  | nil => rfl
  | cons first rest ih =>
      obtain ⟨here, there⟩ := List.forall_mem_cons.1 same
      rw [List.dropWhile_cons, List.dropWhile_cons, here, ih there]

/-- Trimming asks about the items of the list alone. -/
theorem trimWhile_congr {other : α → Bool} (same : ∀ item ∈ items, drops item = other item) :
    trimWhile drops items = trimWhile other items := by
  unfold trimWhile trimEndWhile trimStartWhile
  rw [dropWhile_congr same]
  congr 1
  apply dropWhile_congr
  intro item member
  exact same item ((List.dropWhile_sublist other).subset (List.mem_reverse.1 member))

end Trimming

end WebHost.Text
