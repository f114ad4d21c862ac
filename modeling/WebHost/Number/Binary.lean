/-
Module: WebHost.Number.Binary
Purpose: Binary floating-point numbers, computed exactly.
Main exports:
  Format, binary32, binary64, Binary, Binary.roundRatio, Binary.lessEqual,
  Binary.multiply, Binary.divide, Binary.ofDecimal
-/

namespace WebHost.Number

/-!
A binary number is a significand times a power of two.  Every operation takes
the exact result, a ratio of naturals, and rounds it once to the nearest
number of the format, a tie going to the even significand.  No rounding of the
machine is involved, so statements about these numbers are statements about
naturals.
-/

/-- A binary format: the bits of a significand, and the least and greatest
exponent of its last bit. -/
structure Format where
  precision : Nat
  lowest : Int
  highest : Int
deriving Repr, Inhabited, DecidableEq

/-- Single precision: 24 bits, from 2^-149. -/
def binary32 : Format :=
  { precision := 24, lowest := -149, highest := 104 }

/-- Double precision: 53 bits, from 2^-1074. -/
def binary64 : Format :=
  { precision := 53, lowest := -1074, highest := 971 }

/-- A number of some binary format.  A finite number is `significand` times
two to the `exponent`. -/
inductive Binary where
  | notANumber
  | infinite (negative : Bool)
  | finite (negative : Bool) (significand : Nat) (exponent : Int)
deriving Repr, Inhabited, DecidableEq

namespace Binary

/-- The ratio `significand · 2^exponent` as numerator and denominator. -/
def ratio (significand : Nat) (exponent : Int) : Nat × Nat :=
  if exponent < 0 then
    (significand, Nat.pow 2 exponent.natAbs)
  else
    (significand * Nat.pow 2 exponent.natAbs, 1)

/-- `numerator / denominator` rounded to a natural, a tie going to the even one. -/
def roundEven (numerator denominator : Nat) : Nat :=
  let quotient := numerator / denominator
  let twice := 2 * (numerator % denominator)
  if twice > denominator then quotient + 1
  else if twice = denominator then quotient + quotient % 2
  else quotient

/-- `numerator / denominator` counted in units of `2^exponent`, again as a ratio. -/
def scaled (numerator denominator : Nat) (exponent : Int) : Nat × Nat :=
  if exponent < 0 then
    (numerator * Nat.pow 2 exponent.natAbs, denominator)
  else
    (numerator, denominator * Nat.pow 2 exponent.natAbs)

/-- The number of the format nearest to `numerator / denominator`. -/
def roundRatio (format : Format) (negative : Bool) (numerator denominator : Nat) : Binary :=
  if numerator = 0 then
    .finite negative 0 format.lowest
  else
    let guess := max format.lowest
      ((Nat.log2 numerator : Int) - (Nat.log2 denominator : Int) - (format.precision : Int))
    let inUnits := scaled numerator denominator guess
    let exponent := if inUnits.1 / inUnits.2 < Nat.pow 2 format.precision then guess else guess + 1
    let units := scaled numerator denominator exponent
    let significand := roundEven units.1 units.2
    let (significand, exponent) :=
      if significand = Nat.pow 2 format.precision then
        (Nat.pow 2 (format.precision - 1), exponent + 1)
      else
        (significand, exponent)
    if format.highest < exponent then .infinite negative
    else .finite negative significand exponent

/-- The double with the value of a natural, rounded. -/
def ofNat (number : Nat) : Binary :=
  roundRatio binary64 false number 1

/-- The same number with the other sign. -/
def negate : Binary → Binary
  | .notANumber => .notANumber
  | .infinite negative => .infinite (!negative)
  | .finite negative significand exponent => .finite (!negative) significand exponent

def isFinite : Binary → Bool
  | .finite _ _ _ => true
  | _ => false

/-- The number is greater than zero. -/
def isPositive : Binary → Bool
  | .notANumber => false
  | .infinite negative => !negative
  | .finite negative significand _ => !negative && significand != 0

/-- `left ≤ right` of two finite magnitudes. -/
def magnitudeLessEqual (left right : Nat × Int) : Bool :=
  let low := min left.2 right.2
  left.1 * Nat.pow 2 (left.2 - low).natAbs ≤ right.1 * Nat.pow 2 (right.2 - low).natAbs

/-- `left ≤ right`; false when either is not a number. -/
def lessEqual : Binary → Binary → Bool
  | .notANumber, _ => false
  | _, .notANumber => false
  | .infinite negative, right => negative || right == .infinite false
  | .finite _ _ _, .infinite negative => !negative
  | .finite leftNegative leftSignificand leftExponent,
      .finite rightNegative rightSignificand rightExponent =>
      let left := (leftSignificand, leftExponent)
      let right := (rightSignificand, rightExponent)
      match leftNegative, rightNegative with
      | false, false => magnitudeLessEqual left right
      | true, true => magnitudeLessEqual right left
      | true, false => true
      | false, true => leftSignificand == 0 && rightSignificand == 0

/-- The product of two doubles, rounded to a double. -/
def multiply : Binary → Binary → Binary
  | .finite leftNegative leftSignificand leftExponent,
      .finite rightNegative rightSignificand rightExponent =>
      let product := ratio (leftSignificand * rightSignificand) (leftExponent + rightExponent)
      roundRatio binary64 (leftNegative != rightNegative) product.1 product.2
  | .infinite left, .infinite right => .infinite (left != right)
  | .infinite left, .finite right significand _ =>
      if significand = 0 then .notANumber else .infinite (left != right)
  | .finite left significand _, .infinite right =>
      if significand = 0 then .notANumber else .infinite (left != right)
  | .notANumber, _ => .notANumber
  | _, .notANumber => .notANumber

/-- The quotient of two doubles, rounded to a double. -/
def divide : Binary → Binary → Binary
  | .finite leftNegative leftSignificand leftExponent,
      .finite rightNegative rightSignificand rightExponent =>
      let negative := leftNegative != rightNegative
      if rightSignificand = 0 then
        if leftSignificand = 0 then .notANumber else .infinite negative
      else
        let left := ratio leftSignificand (leftExponent - rightExponent)
        roundRatio binary64 negative left.1 (left.2 * rightSignificand)
  | .infinite _, .infinite _ => .notANumber
  | .infinite left, .finite right _ _ => .infinite (left != right)
  | .finite left _ _, .infinite right => .finite (left != right) 0 binary64.lowest
  | .notANumber, _ => .notANumber
  | _, .notANumber => .notANumber

/-- The number of the format nearest to `digits · 10^power`.  Powers so large
or so small that the result is certainly infinite or zero are not computed. -/
def ofDecimal (format : Format) (negative : Bool) (digits : Nat) (power : Int) : Binary :=
  if digits = 0 then .finite negative 0 format.lowest
  else if 400 < power then .infinite negative
  else if power < 0 then
    if (Nat.log2 digits : Int) + 1200 < 3 * -power then .finite negative 0 format.lowest
    else roundRatio format negative digits (Nat.pow 10 power.natAbs)
  else roundRatio format negative (digits * Nat.pow 10 power.natAbs) 1

end Binary

end WebHost.Number
