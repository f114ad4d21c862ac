/-
Module: WebHost.Number.Decimal
Purpose: Decimal text of binary numbers, read and written.
Main exports:
  Decimal, shortest, positionalText, onePlaceText, readDecimal?
-/
import WebHost.Number.Binary
import WebHost.Number.Natural

namespace WebHost.Number

open Binary

/-!
A finite number is written with the fewest decimal digits that read back to
it, and of those the nearest.  For one, two, … digits the two points of that
decimal grid around the value are tried; the first grid with a point in the
rounding interval wins.  The interval holds its ends exactly when the
significand is even, because ties go to the even significand.
-/

/-- The decimal number `digits · 10^power`. -/
structure Decimal where
  digits : Nat
  power : Int
deriving Repr, Inhabited, DecidableEq

/-- The decimal digits of a natural. -/
def digitCount (number : Nat) : Nat :=
  (Nat.toDigits 10 number).length

/-- A positive value with the ends of the interval that rounds to it, all
three as numerators over one denominator. -/
structure Neighbourhood where
  low : Nat
  value : Nat
  high : Nat
  denominator : Nat
  closed : Bool
deriving Repr, Inhabited, DecidableEq

/-- The neighbourhood of `significand · 2^exponent` in a format.  Below a power
of two the numbers lie twice as dense, except at the bottom of the range. -/
def Neighbourhood.ofFinite (format : Format) (significand : Nat) (exponent : Int) :
    Neighbourhood :=
  let value := ratio (4 * significand) (exponent - 2)
  let unit := ratio 1 (exponent - 2)
  let denominator := value.2
  let quarter := unit.1 * denominator / unit.2
  let denser := significand = Nat.pow 2 (format.precision - 1) ∧ format.lowest < exponent
  { low := value.1 - (if denser then quarter else 2 * quarter)
    value := value.1
    high := value.1 + 2 * quarter
    denominator := denominator
    closed := significand % 2 = 0 }

/-- The point `count · 10^power` lies in the neighbourhood. -/
def Neighbourhood.holds (around : Neighbourhood) (count : Nat) (power : Int) : Bool :=
  let scale := Nat.pow 10 power.natAbs
  let (point, factor) :=
    if power < 0 then (count * around.denominator, scale)
    else (count * scale * around.denominator, 1)
  if around.closed then
    around.low * factor ≤ point && point ≤ around.high * factor
  else
    around.low * factor < point && point < around.high * factor

/-- The nearer of the two grid points at `10^power` around the value, among
those that lie in the neighbourhood. -/
def Neighbourhood.pointAt? (around : Neighbourhood) (power : Int) : Option Nat :=
  let scale := Nat.pow 10 power.natAbs
  let (numerator, denominator) :=
    if power < 0 then (around.value * scale, around.denominator)
    else (around.value, around.denominator * scale)
  let below := numerator / denominator
  let twice := 2 * (numerator % denominator)
  let upper := decide (denominator < twice) || (twice == denominator && below % 2 == 1)
  let nearer := if upper then below + 1 else below
  let farther := if upper then below else below + 1
  if nearer ≠ 0 ∧ around.holds nearer power then some nearer
  else if farther ≠ 0 ∧ around.holds farther power then some farther
  else none

/-- Try grids of decreasing step until one has a point in the neighbourhood. -/
def Neighbourhood.search (around : Neighbourhood) : Nat → Int → Decimal
  | 0, power => { digits := (around.pointAt? power).getD 0, power := power }
  | tries + 1, power =>
      match around.pointAt? power with
      | some digits => { digits := digits, power := power }
      | none => Neighbourhood.search around tries (power - 1)

/-- Drop trailing zeros of the digits, at most `fuel` of them. -/
def Decimal.stripZeros : Nat → Decimal → Decimal
  | 0, decimal => decimal
  | fuel + 1, decimal =>
      if decimal.digits ≠ 0 ∧ decimal.digits % 10 = 0 then
        Decimal.stripZeros fuel { digits := decimal.digits / 10, power := decimal.power + 1 }
      else
        decimal

/-- The shortest decimal that reads back as `significand · 2^exponent`. -/
def shortest (format : Format) (significand : Nat) (exponent : Int) : Decimal :=
  if significand = 0 then
    { digits := 0, power := 0 }
  else
    let around := Neighbourhood.ofFinite format significand exponent
    let whole := digitCount (around.value / around.denominator)
    let leading : Int :=
      if around.value / around.denominator ≠ 0 then whole
      else (digitCount around.value : Int) - (digitCount around.denominator : Int) + 1
    (around.search 20 leading).stripZeros 20

/-- The decimal in positional notation, without an exponent.  `fraction` is
the least number of digits after the point. -/
def Decimal.positional (decimal : Decimal) (fraction : Nat) : List Char :=
  let digits := Nat.toDigits 10 decimal.digits
  if 0 ≤ decimal.power then
    let whole := if decimal.digits = 0 then digits
      else digits ++ List.replicate decimal.power.natAbs '0'
    if fraction = 0 then whole else whole ++ '.' :: List.replicate fraction '0'
  else
    let places := decimal.power.natAbs
    let padded := List.replicate (places + 1 - digits.length) '0' ++ digits
    padded.take (padded.length - places) ++ '.' :: padded.drop (padded.length - places)

/-- A sign and the digits after it. -/
def signed (negative : Bool) (digits : List Char) : String :=
  String.ofList (if negative then '-' :: digits else digits)

/-- Positional text of a double: never an exponent, a point only when there
are digits after it. -/
def positionalText : Binary → String
  | .notANumber => "NaN"
  | .infinite negative => signed negative "inf".toList
  | .finite negative significand exponent =>
      signed negative ((shortest binary64 significand exponent).positional 0)

/-- Text with exactly one digit after the point: the exact value rounded, a
tie going to the even digit. -/
def onePlaceText : Binary → String
  | .notANumber => "NaN"
  | .infinite negative => signed negative "inf".toList
  | .finite negative significand exponent =>
      let value := ratio (10 * significand) exponent
      let tenths := roundEven value.1 value.2
      signed negative (Nat.toDigits 10 (tenths / 10) ++ '.' :: Nat.toDigits 10 (tenths % 10))

/-- The digits after an exponent mark, with their sign. -/
def readPower? : List Char → Option Int
  | '-' :: rest => (readDigits? rest).map fun power => -(power : Int)
  | '+' :: rest => (readDigits? rest).map fun power => (power : Int)
  | characters => (readDigits? characters).map fun power => (power : Int)

/-- An unsigned decimal: digits with an optional point among or around them,
then an optional power of ten. -/
def readMagnitude? (format : Format) (negative : Bool) (characters : List Char) :
    Option Binary := do
  let marked := fun (character : Char) => character == 'e' || character == 'E'
  let mantissa := characters.takeWhile (fun character => !marked character)
  let power ← match characters.dropWhile (fun character => !marked character) with
    | [] => some 0
    | _ :: rest => readPower? rest
  let whole := mantissa.takeWhile Char.isDigit
  let fraction ← match mantissa.dropWhile Char.isDigit with
    | [] => some []
    | '.' :: rest => if rest.all Char.isDigit then some rest else none
    | _ => none
  let digits ← readDigits? (whole ++ fraction)
  some (ofDecimal format negative digits (power - (fraction.length : Int)))

/-- A decimal number, an infinity (`inf`, `infinity`) or `nan` in any case,
each after an optional sign. -/
def readDecimal? (format : Format) (text : String) : Option Binary :=
  let (negative, unsignedPart) := match text.toList with
    | '-' :: rest => (true, rest)
    | '+' :: rest => (false, rest)
    | characters => (false, characters)
  let word := String.ofList (unsignedPart.map Char.toLower)
  if word = "inf" ∨ word = "infinity" then some (.infinite negative)
  else if word = "nan" then some .notANumber
  else readMagnitude? format negative unsignedPart

end WebHost.Number
