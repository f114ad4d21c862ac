/-
Module: WebHost.Proofs.Json.Tokens
Purpose: Integers and strings are read back as they were written.
Main exports:
  FitsWord, EndsNumber, readNumber_writeInteger, readTextOnto_writeChar, readText_writeText
-/
import Mathlib.Tactic.SplitIfs
import WebHost.Json.Reader
import WebHost.Json.Writer
import WebHost.Text.Hex

namespace WebHost.Json

open Number Text

/-!
A token is read with any text behind it.  A string ends by itself, at its quote; a number
ends only before a character that cannot go on with it, so that what follows a number has
to begin with another one.
-/

/-! ### Digits -/

/-- A number above zero is written without a zero before it. -/
theorem head?_toDigits {number : Nat} (positive : 0 < number) :
    (Nat.toDigits 10 number).head? ≠ some '0' := by
  induction number using Nat.strongRecOn with
  | ind number ih =>
      by_cases small : number < 10
      · rw [Nat.toDigits_of_lt_base small]
        have digits : ∀ digit : Fin 10, 0 < digit.val → [digit.val.digitChar].head? ≠ some '0' := by
          decide
        exact digits ⟨number, small⟩ positive
      · have split := Nat.toDigits_of_base_le (b := 10) (by decide) (Nat.not_lt.1 small)
        have front := ih (number / 10) (by omega) (by omega)
        rw [split]
        cases digits : Nat.toDigits 10 (number / 10) with
        | nil => exact absurd digits Nat.toDigits_ne_nil
        | cons first rest => rwa [digits] at front

theorem isDigit_of_mem_toDigits {number : Nat} {character : Char}
    (member : character ∈ Nat.toDigits 10 number) : character.isDigit = true :=
  Nat.isDigit_of_mem_toDigits (by decide) (by decide) member

/-- Digits never make a number smaller. -/
theorem le_ofDigitChars (digits : List Char) (start : Nat) :
    start ≤ Nat.ofDigitChars 10 digits start := by
  rw [Nat.ofDigitChars_eq_ofDigitChars_zero]
  have positive : 0 < 10 ^ digits.length := Nat.pow_pos (by decide)
  calc start = 1 * start := (Nat.one_mul start).symm
    _ ≤ 10 ^ digits.length * start := Nat.mul_le_mul_right start positive
    _ ≤ _ := Nat.le_add_right _ _

/-- Digits of a number that fits a word are all taken into the significand. -/
theorem absorb_of_fits {digits : List Char} {start : Nat}
    (fits : Nat.ofDigitChars 10 digits start < wordBound) :
    absorb start digits = (Nat.ofDigitChars 10 digits start, []) := by
  induction digits generalizing start with
  | nil => rfl
  | cons digit rest ih =>
      have next : Nat.ofDigitChars 10 (digit :: rest) start =
          Nat.ofDigitChars 10 rest (start * 10 + (digit.toNat - 48)) := by
        rw [Nat.ofDigitChars_cons, Nat.mul_comm 10 start]
        rfl
      rw [next] at fits ⊢
      have below : start * 10 + (digit.toNat - 48) < wordBound :=
        Nat.lt_of_le_of_lt (le_ofDigitChars rest _) fits
      rw [absorb, if_pos below, ih fits]

theorem absorb_toDigits {number : Nat} (fits : number < wordBound) :
    absorb 0 (Nat.toDigits 10 number) = (number, []) := by
  have value : Nat.ofDigitChars 10 (Nat.toDigits 10 number) 0 = number :=
    Nat.ofDigitChars_toDigits (by decide) (by decide)
  rw [absorb_of_fits (by rwa [value]), value]

theorem wholeNumber?_toDigits {number : Nat} (fits : number < wordBound) :
    wholeNumber? false (Nat.toDigits 10 number) = some (.integer number) := by
  unfold wholeNumber?
  rw [absorb_toDigits fits]
  rfl

/-- After the sign, a number is an integer down to the least signed word. -/
theorem wholeNumber?_negated {number : Nat} (positive : 0 < number)
    (fits : number ≤ 9223372036854775808) :
    wholeNumber? true (Nat.toDigits 10 number) = some (.integer (-(number : Int))) := by
  have bound : number < wordBound := Nat.lt_of_le_of_lt fits (by decide)
  unfold wholeNumber?
  rw [absorb_toDigits bound]
  have small : 0 < number ∧ number ≤ 9223372036854775808 := ⟨positive, fits⟩
  exact if_pos small

/-! ### Integers -/

/-- An integer fits a signed or an unsigned word of 64 bits. -/
def FitsWord (value : Int) : Prop :=
  -9223372036854775808 ≤ value ∧ value < 18446744073709551616

instance (value : Int) : Decidable (FitsWord value) :=
  inferInstanceAs (Decidable (_ ∧ _))

/-- No number goes on with what follows. -/
def EndsNumber (rest : List Char) : Prop :=
  ∀ first, rest.head? = some first →
    first.isDigit = false ∧ first ≠ '.' ∧ first ≠ 'e' ∧ first ≠ 'E'

theorem endsNumber_nil : EndsNumber [] := nofun

theorem endsNumber_cons {first : Char}
    (other : first.isDigit = false ∧ first ≠ '.' ∧ first ≠ 'e' ∧ first ≠ 'E')
    (rest : List Char) : EndsNumber (first :: rest) := by
  rintro character ⟨⟩
  exact other

section Numbers

variable {rest : List Char} (ends : EndsNumber rest)

include ends

theorem readExponent_of_ends : readExponent rest = some (none, rest) := by
  cases rest with
  | nil => rfl
  | cons first others =>
      obtain ⟨-, -, small, capital⟩ := ends first rfl
      simp [readExponent, small, capital]

theorem takeWhile_digits {digits : List Char} (all : ∀ digit ∈ digits, digit.isDigit = true) :
    (digits ++ rest).takeWhile Char.isDigit = digits ∧
      (digits ++ rest).dropWhile Char.isDigit = rest := by
  have stops : rest.takeWhile Char.isDigit = [] ∧ rest.dropWhile Char.isDigit = rest := by
    cases rest with
    | nil => exact ⟨rfl, rfl⟩
    | cons first others => simp [(ends first rfl).1]
  rw [List.takeWhile_append_of_pos all, List.dropWhile_append_of_pos all, stops.1, stops.2]
  exact ⟨List.append_nil digits, rfl⟩

/-- The digits of a number are read as that number, and as a whole one. -/
theorem readMagnitude_toDigits (negative : Bool) (number : Nat) :
    readMagnitude negative (Nat.toDigits 10 number ++ rest) =
      (wholeNumber? negative (Nat.toDigits 10 number)).map fun value => (value, rest) := by
  obtain ⟨whole, after⟩ := takeWhile_digits ends
    (fun digit (member : digit ∈ Nat.toDigits 10 number) => isDigit_of_mem_toDigits member)
  have plain : ¬ (Nat.toDigits 10 number = [] ∨
      ((Nat.toDigits 10 number).head? = some '0' ∧ (Nat.toDigits 10 number).length ≠ 1)) := by
    rintro (empty | ⟨zero, long⟩)
    · exact Nat.toDigits_ne_nil empty
    · rcases Nat.eq_zero_or_pos number with rfl | positive
      · exact long rfl
      · exact head?_toDigits positive zero
  unfold readMagnitude
  dsimp only
  rw [whole, after, if_neg plain, readExponent_of_ends ends]
  split
  · rename_i others
    exact absurd rfl (ends '.' rfl).2.1
  · rfl

/-- An integer that fits a word is read as it was written. -/
theorem readNumber_writeInteger {value : Int} (fits : FitsWord value) :
    readNumber (writeInteger value ++ rest) = some (.integer value, rest) := by
  obtain ⟨low, high⟩ := fits
  unfold writeInteger
  by_cases negative : value < 0
  · have same : -(value.natAbs : Int) = value := by omega
    rw [if_pos negative, List.cons_append, readNumber, readMagnitude_toDigits ends,
      wholeNumber?_negated (by omega) (by omega), same]
    rfl
  · have bound : value.natAbs < wordBound := by unfold wordBound; omega
    have same : (value.natAbs : Int) = value := by omega
    have unsigned : readNumber (Nat.toDigits 10 value.natAbs ++ rest) =
        readMagnitude false (Nat.toDigits 10 value.natAbs ++ rest) := by
      cases digits : Nat.toDigits 10 value.natAbs with
      | nil => exact absurd digits Nat.toDigits_ne_nil
      | cons first others =>
          have member : first ∈ Nat.toDigits 10 value.natAbs := by simp [digits]
          have digit : first.isDigit = true := isDigit_of_mem_toDigits member
          have noSign : first ≠ '-' := by
            rintro rfl
            exact absurd digit (by decide)
          rw [List.cons_append, readNumber]
          exact fun others same => noSign (List.cons.inj same).1
    rw [if_neg negative, unsigned, readMagnitude_toDigits ends, wholeNumber?_toDigits bound, same]
    rfl

end Numbers

/-! ### Strings -/

/-- The letter of an escape is read as the character that it was written for. -/
theorem unescapeLetter?_escapeLetter? {character letter : Char}
    (escaped : escapeLetter? character = some letter) :
    unescapeLetter? letter = some character ∧ letter ≠ 'u' := by
  unfold escapeLetter? at escaped
  split_ifs at escaped <;> cases escaped <;> subst_vars <;> decide

/-- A control character is read from the digits of its number. -/
theorem hexWord?_hexDigit {number : Nat} (control : number < 0x20) :
    hexWord? '0' '0' (hexDigit (number / 16)) (hexDigit (number % 16)) = some number := by
  have zero : hexValue? '0' = some 0 := rfl
  have high := hexValue?_hexDigit ⟨number / 16, by omega⟩
  have low := hexValue?_hexDigit ⟨number % 16, Nat.mod_lt _ (by decide)⟩
  simp only at high low
  simp only [hexWord?, zero, high, low, Option.bind_eq_bind, Option.bind_some]
  congr 1
  omega

/-- A character is read as it was written, and reading goes on behind it. -/
theorem readTextOnto_writeChar (character : Char) (read rest : List Char) :
    readTextOnto read (writeChar character ++ rest) = readTextOnto (character :: read) rest := by
  unfold writeChar
  cases escaped : escapeLetter? character with
  | some letter =>
      obtain ⟨meant, other⟩ := unescapeLetter?_escapeLetter? escaped
      rw [List.cons_append, List.cons_append, List.nil_append, readTextOnto, meant]
      exact fun a b c d others same => absurd same other
  | none =>
      dsimp only
      split
      · rename_i control
        rw [List.cons_append, List.cons_append, List.cons_append, List.cons_append,
          List.cons_append, List.cons_append, List.nil_append, readTextOnto,
          hexWord?_hexDigit control]
        dsimp only
        rw [if_pos (Or.inl (by omega)), Char.ofNat_toNat]
      · rename_i printed
        have plain : character ≠ '"' ∧ character ≠ '\\' := by
          constructor <;> rintro rfl <;> cases escaped
        rw [List.cons_append, List.nil_append, readTextOnto, if_neg]
        · rintro (same | control)
          · exact plain.2 same
          · exact printed control
        · exact plain.1
        · exact fun a b c d others same => absurd same plain.2
        · exact fun letter others same => absurd same plain.2

theorem readTextOnto_flatMap (characters read rest : List Char) :
    readTextOnto read (characters.flatMap writeChar ++ '"' :: rest) =
      some (characters.reverse ++ read, rest) := by
  induction characters generalizing read with
  | nil => rw [List.flatMap_nil, List.nil_append, readTextOnto]; rfl
  | cons first others ih =>
      rw [List.flatMap_cons, List.append_assoc, readTextOnto_writeChar, ih]
      simp

/-- A string is read as it was written, up to its closing quote. -/
theorem readText_writeText (value : String) (rest : List Char) :
    readText (value.toList.flatMap writeChar ++ '"' :: rest) = some (value, rest) := by
  rw [readText, readTextOnto_flatMap]
  simp

end WebHost.Json
