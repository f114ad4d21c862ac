/-
Module: WebHost.Url.Punycode
Purpose: The ASCII form of a domain label with other characters.
Main exports:
  punycodeEncode, punycodeDecode?
-/
import WebHost.Text.Ascii

namespace WebHost

open Text

/-!
The ASCII characters of a label come first; then, in increasing order, each
other character is told by the steps to it from the one before, in digits of a
base whose thresholds adapt to the steps so far.
-/

/-- The digit for a number below thirty-six. -/
def punycodeDigit (number : Nat) : Char :=
  if number < 26 then Char.ofNat (number + 97) else Char.ofNat (number + 22)

/-- Divide a step count until it is small; the bias grows by one base each time. -/
def shrinkDelta : Nat → Nat → Nat → Nat × Nat
  | 0, delta, bias => (delta, bias)
  | fuel + 1, delta, bias =>
      if 455 < delta then shrinkDelta fuel (delta / 35) (bias + 36) else (delta, bias)

/-- The bias after a step count. -/
def adaptBias (delta handled : Nat) (first : Bool) : Nat :=
  let scaled := if first then delta / 700 else delta / 2
  let (small, bias) := shrinkDelta 12 (scaled + scaled / handled) 0
  bias + 36 * small / (small + 38)

/-- The threshold of the digit at a position, which is a multiple of the base. -/
def punycodeThreshold (position bias : Nat) : Nat :=
  if position ≤ bias + 1 then 1
  else if bias + 26 ≤ position then 26
  else position - bias

/-- The digits of a step count. -/
def punycodeNumber : Nat → Nat → Nat → Nat → List Char
  | 0, _, _, _ => []
  | fuel + 1, position, bias, number =>
      let threshold := punycodeThreshold position bias
      if number < threshold then [punycodeDigit number]
      else
        punycodeDigit (threshold + (number - threshold) % (36 - threshold)) ::
          punycodeNumber fuel (position + 36) bias ((number - threshold) / (36 - threshold))

/-- The state between two characters that are told. -/
structure PunycodeState where
  delta : Nat
  bias : Nat
  handled : Nat
  output : List Char
deriving Repr, Inhabited

/-- Pass one character of the label while telling all occurrences of `code`. -/
def punycodePass (basic code : Nat) (state : PunycodeState) (character : Char) :
    PunycodeState :=
  if character.toNat < code then { state with delta := state.delta + 1 }
  else if character.toNat = code then
    { delta := 0
      bias := adaptBias state.delta (state.handled + 1) (state.handled == basic)
      handled := state.handled + 1
      output := state.output ++ punycodeNumber 16 36 state.bias state.delta }
  else state

/-- Tell the characters with these codes, which increase, after those below
`next`. -/
def punycodeTell (label : List Char) (basic : Nat) :
    List Nat → Nat → PunycodeState → PunycodeState
  | [], _, state => state
  | code :: rest, next, state =>
      let start := { state with delta := state.delta + (code - next) * (state.handled + 1) }
      let told := label.foldl (punycodePass basic code) start
      punycodeTell label basic rest (code + 1) { told with delta := told.delta + 1 }

/-- The ASCII form of a label, without the mark before it. -/
def punycodeEncode (label : List Char) : List Char :=
  let basic := label.filter fun c => c.toNat < 128
  let codes := (((label.filter fun c => 128 ≤ c.toNat).map Char.toNat).mergeSort
    (fun a b => a ≤ b)).eraseDups
  let start : PunycodeState :=
    { delta := 0
      bias := 72
      handled := basic.length
      output := if basic = [] then [] else basic ++ ['-'] }
  (punycodeTell label basic.length codes 128 start).output

/-- The number of a digit. -/
def punycodeValue? (digit : Char) : Option Nat :=
  if 'a' ≤ digit ∧ digit ≤ 'z' then some (digit.toNat - 97)
  else if digit.isDigit then some (digit.toNat - 22)
  else none

/-- Add the number that some digits write, from a position on, to a number. -/
def punycodeReadNumber (bias : Nat) : Nat → Nat → Nat → List Char → Option (Nat × List Char)
  | _, _, _, [] => none
  | position, weight, number, digit :: rest =>
      match punycodeValue? digit with
      | none => none
      | some value =>
          let threshold := punycodeThreshold position bias
          if value < threshold then some (number + value * weight, rest)
          else
            punycodeReadNumber bias (position + 36) (weight * (36 - threshold))
              (number + value * weight) rest

theorem punycodeReadNumber_shorter {bias position weight number read : Nat}
    {digits rest : List Char}
    (found : punycodeReadNumber bias position weight number digits = some (read, rest)) :
    rest.length < digits.length := by
  fun_induction punycodeReadNumber bias position weight number digits with
  | case1 => simp at found
  | case2 => simp at found
  | case3 position weight number digit after value _ threshold _ =>
      simp only [Option.some.injEq, Prod.mk.injEq] at found
      rw [← found.2]
      exact Nat.lt_succ_self _
  | case4 position weight number digit after value _ threshold _ ih =>
      exact Nat.lt_succ_of_lt (ih found)

/-- Put the characters that some digits tell among those known so far; the next
one is told from a code and a place on. -/
def punycodeReadFrom (code place bias : Nat) (known : List Char) (digits : List Char) :
    Option (List Char) :=
  if digits = [] then some known
  else
    match _read : punycodeReadNumber bias 36 1 place digits with
    | none => none
    | some (number, rest) =>
        let count := known.length + 1
        let told := code + number / count
        if told.isValidChar then
          punycodeReadFrom told (number % count + 1) (adaptBias (number - place) count (place == 0))
            (known.insertIdx (number % count) (Char.ofNat told)) rest
        else
          none
termination_by digits.length
decreasing_by exact punycodeReadNumber_shorter _read

/-- The label with this ASCII form, which is given without the mark before it. -/
def punycodeDecode? (written : List Char) : Option (List Char) :=
  match cutAtLast '-' written with
  | some (first :: basic, digits) => punycodeReadFrom 128 0 72 (first :: basic) digits
  | _ => punycodeReadFrom 128 0 72 [] written

end WebHost
