/-
Module: WebHost.Proofs.Text.Length
Purpose: Which texts declare a length, and which one.
Main exports:
  trimWhile_append, exists_trimWhile, readCount?_eq_some_iff, DeclaresLength,
  readLength?_eq_some_iff
-/
import WebHost.Header.Fields

namespace WebHost

open Number Text

/-!
A length is read in two steps, by trimming the text and by reading what is left
as a count.  Both are put together here: a text declares a length if it is a
run of digits, maybe after one plus sign, with nothing but blanks around them,
and the number is one that a word of 64 bits holds.
-/

namespace Text

variable {α : Type} {drops : α → Bool}

/-! ### Trimming -/

theorem dropWhile_of_head? {items : List α}
    (stays : ∀ first, items.head? = some first → drops first = false) :
    items.dropWhile drops = items := by
  cases items with
  | nil => rfl
  | cons first rest =>
      have kept : drops first = false := stays first rfl
      simp [kept]

/-- Trimming removes what stands around a run whose ends stay. -/
theorem trimWhile_append {before core after : List α} (leading : ∀ item ∈ before, drops item)
    (trailing : ∀ item ∈ after, drops item)
    (first : ∀ item, core.head? = some item → drops item = false)
    (last : ∀ item, core.getLast? = some item → drops item = false) :
    trimWhile drops (before ++ (core ++ after)) = core := by
  have start : (core ++ after).dropWhile drops = core ++ after ∨ core = [] := by
    cases core with
    | nil => exact Or.inr rfl
    | cons item rest => exact Or.inl (dropWhile_of_head? first)
  have trailingReversed : ∀ item ∈ after.reverse, drops item :=
    fun item member => trailing item (List.mem_reverse.1 member)
  unfold trimWhile trimStartWhile trimEndWhile
  rw [List.dropWhile_append_of_pos leading]
  rcases start with kept | rfl
  · have ends : core.reverse.dropWhile drops = core.reverse :=
      dropWhile_of_head? fun item found => last item (by rwa [List.head?_reverse] at found)
    rw [kept, List.reverse_append, List.dropWhile_append_of_pos trailingReversed, ends,
      List.reverse_reverse]
  · have gone : (after ++ []).dropWhile drops = [].dropWhile drops :=
      List.dropWhile_append_of_pos trailing
    rw [List.append_nil, List.dropWhile_nil] at gone
    simp [gone]

/-- What trimming removes is dropped item by item. -/
theorem exists_trimWhile (drops : α → Bool) (items : List α) :
    ∃ before after, items = before ++ (trimWhile drops items ++ after) ∧
      (∀ item ∈ before, drops item) ∧ ∀ item ∈ after, drops item := by
  refine ⟨items.takeWhile drops,
    ((trimStartWhile drops items).reverse.takeWhile drops).reverse, ?_, ?_, ?_⟩
  · unfold trimWhile trimEndWhile
    rw [← List.reverse_append, List.takeWhile_append_dropWhile, List.reverse_reverse]
    exact List.takeWhile_append_dropWhile.symm
  · exact fun item member => List.all_eq_true.1 List.all_takeWhile item member
  · exact fun item member => List.all_eq_true.1 List.all_takeWhile item (List.mem_reverse.1 member)

end Text

/-! ### Counts -/

/-- A run of ASCII digits that writes a number. -/
structure WritesNumber (digits : List Char) (number : Nat) : Prop where
  nonempty : digits ≠ []
  isDigit : ∀ digit ∈ digits, digit.isDigit = true
  value : Nat.ofDigitChars 10 digits 0 = number

theorem readDigits?_eq_some_iff {characters : List Char} {number : Nat} :
    readDigits? characters = some number ↔ WritesNumber characters number := by
  unfold readDigits?
  rw [Option.ite_none_right_eq_some, List.all_eq_true, Option.some.injEq]
  constructor
  · rintro ⟨⟨nonempty, digits⟩, value⟩
    exact ⟨nonempty, digits, value⟩
  · rintro ⟨nonempty, digits, value⟩
    exact ⟨⟨nonempty, digits⟩, value⟩

/-- A count is a number below the bound, after at most one plus sign. -/
theorem readCount?_eq_some_iff {bound : Nat} {characters : List Char} {number : Nat} :
    readCount? bound characters = some number ↔
      ∃ sign digits, (sign = [] ∨ sign = ['+']) ∧ characters = sign ++ digits ∧
        WritesNumber digits number ∧ number < bound := by
  unfold readCount?
  simp only [Option.filter_eq_some_iff, readDigits?_eq_some_iff, decide_eq_true_eq]
  constructor
  · rintro ⟨written, below⟩
    split at written
    · rename_i rest
      exact ⟨['+'], rest, Or.inr rfl, rfl, written, below⟩
    · exact ⟨[], characters, Or.inl rfl, rfl, written, below⟩
  · rintro ⟨sign, digits, rfl | rfl, rfl, written, below⟩
    · refine ⟨?_, below⟩
      cases characters with
      | nil => exact written
      | cons first rest =>
          have digit : first.isDigit = true := written.isDigit first (by simp)
          have noPlus : first ≠ '+' := by
            rintro rfl
            exact absurd digit (by decide)
          split
          · rename_i same
            exact absurd (List.cons.inj same).1 noPlus
          · exact written
    · exact ⟨written, below⟩

/-! ### Lengths -/

/-- A text that declares a length: digits, after at most one plus sign and with
blanks around, for a number that a word holds. -/
def DeclaresLength (text : String) (length : Nat) : Prop :=
  ∃ before sign digits after, text.toList = before ++ ((sign ++ digits) ++ after) ∧
    (∀ character ∈ before, isBlank character = true) ∧
    (∀ character ∈ after, isBlank character = true) ∧
    (sign = [] ∨ sign = ['+']) ∧ WritesNumber digits length ∧ length < wordBound

theorem not_isBlank_of_isDigit {character : Char} (digit : character.isDigit = true) :
    isBlank character = false := by
  have range : 48 ≤ character.toNat ∧ character.toNat ≤ 57 := Char.isDigit_iff_toNat.1 digit
  simp only [isBlank, blankRanges, List.any_cons, List.any_nil, Bool.or_false, Bool.or_eq_false_iff,
    Bool.and_eq_false_iff, decide_eq_false_iff_not]
  omega

theorem readLength?_eq_some_iff {text : String} {length : Nat} :
    Fields.readLength? text = some length ↔ DeclaresLength text length := by
  unfold Fields.readLength?
  rw [readCount?_eq_some_iff]
  constructor
  · rintro ⟨sign, digits, signed, trimmed, written, below⟩
    obtain ⟨before, after, parts, leading, trailing⟩ := exists_trimWhile isBlank text.toList
    have core : trimWhile isBlank text.toList = sign ++ digits := trimmed
    rw [core] at parts
    exact ⟨before, sign, digits, after, parts, leading, trailing, signed, written, below⟩
  · rintro ⟨before, sign, digits, after, parts, leading, trailing, signed, written, below⟩
    refine ⟨sign, digits, signed, ?_, written, below⟩
    have blankless : ∀ character ∈ sign ++ digits, isBlank character = false := by
      intro character member
      rcases List.mem_append.1 member with plus | digit
      · rcases signed with rfl | rfl
        · cases plus
        · rw [List.mem_singleton.1 plus]
          decide
      · exact not_isBlank_of_isDigit (written.isDigit character digit)
    rw [parts]
    exact trimWhile_append leading trailing
      (fun item found => blankless item (List.mem_of_mem_head? found))
      (fun item found => blankless item (List.mem_of_mem_getLast? found))

end WebHost
