/-
Module: WebHost.Text.Blank
Purpose: The blank characters of Unicode and trimming by them.
Main exports:
  isBlank, trimBlanks
-/
import WebHost.Text.Ascii

namespace WebHost.Text

/-!
A character is blank when it has the Unicode property White_Space: twenty-five
characters in ten ranges.  The zero-width space U+200B is not one of them.
-/

/-- The ranges of the property White_Space, both ends included. -/
def blankRanges : List (Nat × Nat) :=
  [(0x09, 0x0D), (0x20, 0x20), (0x85, 0x85), (0xA0, 0xA0), (0x1680, 0x1680),
   (0x2000, 0x200A), (0x2028, 0x2029), (0x202F, 0x202F), (0x205F, 0x205F), (0x3000, 0x3000)]

/-- The character lies in one of the blank ranges. -/
def isBlank (character : Char) : Bool :=
  blankRanges.any fun (low, high) => low ≤ character.toNat && character.toNat ≤ high

/-- Drop blanks at both ends of a character list. -/
def trimBlanks (characters : List Char) : List Char :=
  trimWhile isBlank characters

end WebHost.Text
