/-
Module: WebHost.Number.Natural
Purpose: Decimal text of natural numbers.
Main exports:
  naturalText, readDigits?, readCount?, readDigits?_toDigits
-/

namespace WebHost.Number

/-!
Lengths, ports and counters are written with the fewest decimal digits.  They
are read from ASCII digits, of which there may be leading zeros; a count may
carry one plus sign and has to lie below a bound.
-/

/-- The number in decimal digits, without leading zeros. -/
def naturalText (number : Nat) : String :=
  String.ofList (Nat.toDigits 10 number)

/-- The number written by a non-empty run of ASCII digits. -/
def readDigits? (characters : List Char) : Option Nat :=
  if characters ≠ [] ∧ characters.all Char.isDigit then
    some (Nat.ofDigitChars 10 characters 0)
  else
    none

/-- A number below `bound`, written by digits after an optional plus sign. -/
def readCount? (bound : Nat) (characters : List Char) : Option Nat :=
  let digits := match characters with
    | '+' :: rest => rest
    | _ => characters
  (readDigits? digits).filter (· < bound)

/-- The number of different 64-bit words. -/
def wordBound : Nat := 18446744073709551616

theorem readDigits?_toDigits (number : Nat) :
    readDigits? (Nat.toDigits 10 number) = some number := by
  have nonempty : Nat.toDigits 10 number ≠ [] := Nat.toDigits_ne_nil
  have digits : (Nat.toDigits 10 number).all Char.isDigit = true := by
    simp only [List.all_eq_true]
    exact fun character member => Nat.isDigit_of_mem_toDigits (by decide) (by decide) member
  simp [readDigits?, nonempty, digits, Nat.ofDigitChars_toDigits]

end WebHost.Number
