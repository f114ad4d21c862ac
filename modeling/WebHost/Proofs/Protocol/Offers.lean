/-
Module: WebHost.Proofs.Protocol.Offers
Purpose: How the names of protocols travel on header lines.
Main exports:
  isProtocolName_iff, OfferItems, OfferLines, offeredProtocols_of_lines,
  exists_value_offerText
-/
import WebHost.Proofs.Header.Values
import WebHost.Proofs.Text.Pieces
import WebHost.Protocol.Name

namespace WebHost

open Text

/-!
Offers may be spread over header lines in any way: between commas stands a name
with spaces and tabs around it, or nothing but these.  Whatever the way, the
server reads the same names in the same order, and the single line that a client
writes is one of these ways.
-/

/-! ### Names of protocols -/

theorem isProtocolChar_iff (character : Char) :
    isProtocolChar character = true ↔
      33 ≤ character.toNat ∧ character.toNat ≤ 126 ∧ character ≠ ',' ∧ character ≠ '"' ∧
        character ≠ ';' := by
  simp [isProtocolChar, and_assoc]

theorem isProtocolName_iff (name : String) :
    isProtocolName name = true ↔
      name.toList ≠ [] ∧ ∀ character ∈ name.toList, isProtocolChar character = true := by
  simp [isProtocolName]

theorem isVisible_of_isProtocolChar {character : Char} (legal : isProtocolChar character = true) :
    IsVisible character := by
  obtain ⟨low, high, -⟩ := (isProtocolChar_iff character).1 legal
  right
  omega

theorem not_isBlank_of_isProtocolChar {character : Char}
    (legal : isProtocolChar character = true) : isBlank character = false := by
  obtain ⟨low, high, -⟩ := (isProtocolChar_iff character).1 legal
  simp [isBlank, blankRanges]
  omega

/-! ### Lines of offers -/

/-- A space or a tab. -/
def IsGap (character : Char) : Prop := character = ' ' ∨ character = '\t'

theorem IsGap.isBlank {character : Char} (gap : IsGap character) :
    isBlank character = true := by
  rcases gap with rfl | rfl <;> decide

theorem IsGap.isVisible {character : Char} (gap : IsGap character) : IsVisible character := by
  rcases gap with rfl | rfl
  · exact .inr (by decide)
  · exact .inl (by decide)

/-- What stands between the commas of a line, with the names in it: each item is
a name with gaps around it, or nothing but a gap. -/
inductive OfferItems : List String → List (List Char) → Prop where
  | nil : OfferItems [] []
  | gap {names : List String} {items : List (List Char)} (gap : List Char)
      (blank : ∀ c ∈ gap, IsGap c) (rest : OfferItems names items) :
      OfferItems names (gap :: items)
  | name {names : List String} {items : List (List Char)} (name : String)
      (before after : List Char) (legal : isProtocolName name = true)
      (leading : ∀ c ∈ before, IsGap c) (trailing : ∀ c ∈ after, IsGap c)
      (rest : OfferItems names items) :
      OfferItems (name :: names) ((before ++ (name.toList ++ after)) :: items)

/-- Lines over which names are spread, in their order. -/
inductive OfferLines : List String → List FieldValue → Prop where
  | nil : OfferLines [] []
  | line {names rest : List String} {lines : List FieldValue} (value : FieldValue)
      (items : List (List Char)) (nonempty : items ≠ [])
      (held : value.bytes = encode (String.ofList ([','].intercalate items)))
      (spread : OfferItems names items) (more : OfferLines rest lines) :
      OfferLines (names ++ rest) (value :: lines)

variable {names : List String} {items : List (List Char)}

theorem trimBlanks_gap {gap : List Char} (blank : ∀ c ∈ gap, IsGap c) : trimBlanks gap = [] := by
  have trimmed := trimWhile_append (fun c member => (blank c member).isBlank)
    (fun c (member : c ∈ []) => absurd member List.not_mem_nil)
    (fun c (found : [].head? = some c) => nomatch found)
    (fun c (found : [].getLast? = some c) => nomatch found)
  simpa [trimBlanks] using trimmed

theorem trimBlanks_name {name : String} {before after : List Char}
    (legal : isProtocolName name = true) (leading : ∀ c ∈ before, IsGap c)
    (trailing : ∀ c ∈ after, IsGap c) :
    trimBlanks (before ++ (name.toList ++ after)) = name.toList := by
  obtain ⟨-, all⟩ := (isProtocolName_iff name).1 legal
  apply trimWhile_append
  · intro c member
    exact (leading c member).isBlank
  · intro c member
    exact (trailing c member).isBlank
  · intro c found
    exact not_isBlank_of_isProtocolChar (all c (List.mem_of_head? found))
  · intro c found
    exact not_isBlank_of_isProtocolChar (all c (List.mem_of_getLast? found))

/-- An item holds visible characters and no comma. -/
theorem OfferItems.visible (spread : OfferItems names items) :
    ∀ item ∈ items, ∀ c ∈ item, IsVisible c ∧ c ≠ ',' := by
  have ofGap : ∀ {c : Char}, IsGap c → IsVisible c ∧ c ≠ ',' := by
    intro c gap
    refine ⟨gap.isVisible, ?_⟩
    rcases gap with rfl | rfl <;> decide
  induction spread with
  | nil =>
      intro item member
      cases member
  | gap gap blank rest ih =>
      intro item member c inside
      rcases List.mem_cons.1 member with rfl | later
      · exact ofGap (blank c inside)
      · exact ih item later c inside
  | name name before after legal leading trailing rest ih =>
      intro item member c inside
      rcases List.mem_cons.1 member with rfl | later
      · rcases List.mem_append.1 inside with front | following
        · exact ofGap (leading c front)
        · rcases List.mem_append.1 following with char | back
          · have legalChar := ((isProtocolName_iff name).1 legal).2 c char
            obtain ⟨-, -, noComma, -⟩ := (isProtocolChar_iff c).1 legalChar
            exact ⟨isVisible_of_isProtocolChar legalChar, noComma⟩
          · exact ofGap (trailing c back)
      · exact ih item later c inside

/-- A line is visible text. -/
theorem OfferItems.line_visible (spread : OfferItems names items) :
    ∀ c ∈ (String.ofList ([','].intercalate items)).toList, IsVisible c := by
  intro c member
  rw [String.toList_ofList] at member
  by_cases comma : c = ','
  · subst comma
    exact .inr (by decide)
  · obtain ⟨item, among, inside⟩ := (mem_intercalate_iff comma).1 member
    exact (spread.visible item among c inside).1

/-- The names on a line are read from it. -/
theorem splitOffer_of_items (spread : OfferItems names items) (nonempty : items ≠ []) :
    splitOffer (String.ofList ([','].intercalate items)) = names := by
  have pieces : ([','].intercalate items).splitOn ',' = items := by
    apply List.splitOn_intercalate ',' _ nonempty
    intro item among comma
    exact (spread.visible item among ',' comma).2 rfl
  unfold splitOffer
  rw [String.toList_ofList, pieces]
  clear pieces nonempty
  induction spread with
  | nil => rfl
  | gap gap blank rest ih =>
      rw [List.map_cons, trimBlanks_gap blank]
      exact ih
  | name name before after legal leading trailing rest ih =>
      have kept : name.toList ≠ [] := ((isProtocolName_iff name).1 legal).1
      rw [List.map_cons, trimBlanks_name legal leading trailing, List.filter_cons,
        if_pos (decide_eq_true kept), List.map_cons, ih, String.ofList_toList]

/-- The names on all lines are read from a header. -/
theorem offeredProtocols_of_lines {fields : Fields}
    (spread : OfferLines names (fields.values .socketProtocol)) :
    offeredProtocols fields = names := by
  unfold offeredProtocols
  generalize fields.values .socketProtocol = lines at spread
  induction spread with
  | nil => rfl
  | line value items nonempty held spread more ih =>
      have read := text?_of_visible spread.line_visible held
      rw [List.filterMap_cons_some read, List.flatMap_cons, ih,
        splitOffer_of_items spread nonempty]

example : splitOffer " ,chat,,\tproto-two " = ["chat", "proto-two"] := by decide

/-! ### The line of a client -/

theorem intercalate_cons_item (separator first : Char) (item : List Char)
    (items : List (List Char)) :
    [separator].intercalate ((first :: item) :: items) =
      first :: [separator].intercalate (item :: items) := by
  cases items with
  | nil => simp
  | cons second others => simp [List.intercalate_cons_cons]

/-- A comma and a space between names are a comma between items that begin with a
space. -/
theorem intercalate_space (first : List Char) (rest : List (List Char)) :
    [',', ' '].intercalate (first :: rest) =
      [','].intercalate (first :: rest.map (' ' :: ·)) := by
  induction rest generalizing first with
  | nil => simp
  | cons second others ih =>
      rw [List.intercalate_cons_cons, ih second, List.map_cons, List.intercalate_cons_cons,
        intercalate_cons_item]
      simp

/-- The line that a client writes has each offer as an item. -/
theorem exists_items_offerText (nonempty : names ≠ [])
    (legal : ∀ name ∈ names, isProtocolName name = true) :
    ∃ items, items ≠ [] ∧ OfferItems names items ∧
      offerText names = String.ofList ([','].intercalate items) := by
  have rest_items : ∀ rest : List String, (∀ name ∈ rest, isProtocolName name = true) →
      OfferItems rest ((rest.map String.toList).map (' ' :: ·)) := by
    intro rest all
    induction rest with
    | nil => exact .nil
    | cons name others ih =>
        obtain ⟨here, there⟩ := List.forall_mem_cons.1 all
        have item := OfferItems.name name [' '] [] here
          (by simp [IsGap]) (by simp) (ih there)
        simpa using item
  cases names with
  | nil => exact absurd rfl nonempty
  | cons first rest =>
      obtain ⟨here, there⟩ := List.forall_mem_cons.1 legal
      refine ⟨first.toList :: (rest.map String.toList).map (' ' :: ·), List.cons_ne_nil _ _, ?_, ?_⟩
      · have item := OfferItems.name first [] [] here (by simp) (by simp) (rest_items rest there)
        simpa using item
      · have separator : ", ".toList = [',', ' '] := rfl
        apply String.toList_injective
        rw [offerText, String.toList_intercalate, separator, List.map_cons, intercalate_space,
          String.toList_ofList]

/-- It is a legal field value, and one way to spread the offers. -/
theorem exists_value_offerText (nonempty : names ≠ [])
    (legal : ∀ name ∈ names, isProtocolName name = true) :
    ∃ value, FieldValue.ofText? (offerText names) = some value ∧ OfferLines names [value] := by
  obtain ⟨items, stands, spread, line⟩ := exists_items_offerText nonempty legal
  rw [line]
  obtain ⟨value, written, -⟩ := ofText?_of_visible spread.line_visible
  refine ⟨value, written, ?_⟩
  simpa using OfferLines.line value items stands (bytes_of_ofText? written) spread .nil

end WebHost
