/-
Module: WebHost.Proofs.Text.Order
Purpose: Texts and their encodings are in the same order.
Main exports:
  utf8EncodeChar_lt, encode_lt_of_lt, encode_lt_iff
-/
import Mathlib.Tactic.SplitIfs
import WebHost.Proofs.Text.Utf8

namespace WebHost.Text

/-!
Texts are compared character by character, encodings byte by byte.  The first
byte of a character tells how many bytes it takes, and more bytes are only taken
for greater characters, so that the two comparisons never differ.
-/

/-- Of two characters, the bytes of the first come first, whatever follows them. -/
theorem utf8EncodeChar_lt {first second : Char} (less : first < second) (rest others : Bytes) :
    String.utf8EncodeChar first ++ rest < String.utf8EncodeChar second ++ others := by
  have numbers : first.val.toNat < second.val.toNat := UInt32.lt_iff_toNat_lt.1 less
  have bound : second.val.toNat < 1114112 := by
    rcases second.valid with low | ⟨-, high⟩
    · exact Nat.lt_trans low (by decide)
    · exact high
  rw [String.utf8EncodeChar.eq_def, String.utf8EncodeChar.eq_def]
  dsimp only
  generalize first.val.toNat = low at numbers
  generalize second.val.toNat = high at numbers bound
  split_ifs <;>
    simp (disch := omega) only [List.cons_append, List.nil_append, List.cons_lt_cons_iff,
      UInt8.lt_iff_toNat_lt, ← UInt8.toNat_inj, UInt8.toNat_ofNat', Nat.mod_eq_of_lt] <;>
    omega

theorem encode_lt_of_lt {left right : String} (less : left < right) :
    encode left < encode right := by
  rw [String.lt_iff] at less
  rw [encode_eq_flatMap, encode_eq_flatMap]
  generalize left.toList = front at less ⊢
  generalize right.toList = back at less ⊢
  induction back generalizing front with
  | nil => exact absurd less (List.not_lt_nil front)
  | cons second others ih =>
      cases front with
      | nil =>
          rw [List.flatMap_nil, List.flatMap_cons]
          cases bytes : String.utf8EncodeChar second with
          | nil => exact absurd bytes String.utf8EncodeChar_ne_nil
          | cons byte more => exact List.nil_lt_cons _ _
      | cons first rest =>
          rw [List.flatMap_cons, List.flatMap_cons]
          rcases List.cons_lt_cons_iff.1 less with earlier | ⟨rfl, later⟩
          · exact utf8EncodeChar_lt earlier _ _
          · exact List.append_left_lt (ih rest later)

/-- Texts are in the order of their bytes. -/
theorem encode_lt_iff {left right : String} : encode left < encode right ↔ left < right := by
  constructor
  · intro before
    refine Classical.byContradiction fun unordered => ?_
    by_cases same : left = right
    · subst same
      exact List.lt_irrefl _ before
    · have after : right < left := Std.lt_of_le_of_ne (String.not_lt.1 unordered) (Ne.symm same)
      exact List.lt_asymm before (encode_lt_of_lt after)
  · exact encode_lt_of_lt

end WebHost.Text
