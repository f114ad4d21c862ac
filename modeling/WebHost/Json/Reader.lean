/-
Module: WebHost.Json.Reader
Purpose: Reading JSON text.
Main exports:
  Json.depthLimit, Json.parse?, Json.ofBytes?
-/
import WebHost.Json.Value
import WebHost.Number.Decimal
import WebHost.Text.Utf8

namespace WebHost.Json

open Number Text

/-!
The reader accepts the JSON grammar and nothing else: no byte order mark, no
trailing text, no unpaired surrogate, no control character in a string, no
leading zero.  At most 127 containers may stand inside each other.

A number with a point or an exponent, or outside the integer range, becomes a
double.  Its first digits, as many as fit an unsigned word, form a significand;
the rest only count as powers of ten; the double is the rounded significand
times or divided by the rounded power.  A number too large for a double is no
JSON number here.
-/

/-- The greatest number of containers inside each other. -/
def depthLimit : Nat := 127

/-- The four characters that may stand between tokens. -/
def isGap (character : Char) : Bool :=
  character == ' ' || character == '\t' || character == '\n' || character == '\r'

/-- Drop the blanks before the next token. -/
def skipGaps (characters : List Char) : List Char :=
  characters.dropWhile isGap

/-- The value of a hexadecimal digit. -/
def hexValue? (character : Char) : Option Nat :=
  if character.isDigit then some (character.toNat - 48)
  else if 'a' ≤ character ∧ character ≤ 'f' then some (character.toNat - 87)
  else if 'A' ≤ character ∧ character ≤ 'F' then some (character.toNat - 55)
  else none

/-- The number written by four hexadecimal digits. -/
def hexWord? (first second third fourth : Char) : Option Nat := do
  let a ← hexValue? first
  let b ← hexValue? second
  let c ← hexValue? third
  let d ← hexValue? fourth
  some (((a * 16 + b) * 16 + c) * 16 + d)

/-- The character that a letter after a backslash stands for. -/
def unescapeLetter? (letter : Char) : Option Char :=
  if letter = '"' then some '"'
  else if letter = '\\' then some '\\'
  else if letter = '/' then some '/'
  else if letter = 'b' then some '\x08'
  else if letter = 'f' then some '\x0c'
  else if letter = 'n' then some '\n'
  else if letter = 'r' then some '\r'
  else if letter = 't' then some '\t'
  else none

/-- The characters of a string up to its closing quote, in reverse before
those already read, and what follows the quote. -/
def readTextOnto (read : List Char) : List Char → Option (List Char × List Char)
  | [] => none
  | '"' :: rest => some (read, rest)
  | '\\' :: 'u' :: a :: b :: c :: d :: rest =>
      match hexWord? a b c d with
      | none => none
      | some word =>
          if word < 0xD800 ∨ 0xDFFF < word then
            readTextOnto (Char.ofNat word :: read) rest
          else if 0xDC00 ≤ word then
            none
          else
            match rest with
            | '\\' :: 'u' :: e :: f :: g :: h :: after =>
                match hexWord? e f g h with
                | none => none
                | some low =>
                    if 0xDC00 ≤ low ∧ low ≤ 0xDFFF then
                      readTextOnto
                        (Char.ofNat (0x10000 + (word - 0xD800) * 0x400 + (low - 0xDC00)) :: read)
                        after
                    else
                      none
            | _ => none
  | '\\' :: letter :: rest =>
      match unescapeLetter? letter with
      | some character => readTextOnto (character :: read) rest
      | none => none
  | character :: rest =>
      if character = '\\' ∨ character.toNat < 0x20 then none
      else readTextOnto (character :: read) rest

/-- A string after its opening quote. -/
def readText (characters : List Char) : Option (String × List Char) :=
  (readTextOnto [] characters).map fun (read, rest) => (String.ofList read.reverse, rest)

/-- Extend a significand by digits as long as it fits an unsigned word; the
digits that did not fit are returned. -/
def absorb (significand : Nat) : List Char → Nat × List Char
  | [] => (significand, [])
  | digit :: rest =>
      let next := significand * 10 + (digit.toNat - 48)
      if next < wordBound then absorb next rest else (significand, digit :: rest)

/-- The double nearest to a power of ten, up to 10^308. -/
def powerOfTen (power : Nat) : Binary :=
  Binary.ofDecimal binary64 false 1 power

/-- Divide by 10^308 until the rest of a negative power is in range. -/
def scaleDown : Nat → Binary → Nat → Binary
  | 0, number, _ => number
  | fuel + 1, number, power =>
      if power ≤ 308 then number.divide (powerOfTen power)
      else scaleDown fuel (number.divide (powerOfTen 308)) (power - 308)

/-- A significand times a power of ten, if that is a finite double. -/
def scaledFloat? (negative : Bool) (significand : Nat) (power : Int) : Option Binary :=
  let number := Binary.ofNat significand
  let scaled :=
    if power < 0 then some (scaleDown 4 number power.natAbs)
    else if power ≤ 308 then some (number.multiply (powerOfTen power.natAbs))
    else if significand = 0 then some number
    else none
  match scaled with
  | some number =>
      if number.isFinite then some (if negative then number.negate else number) else none
  | none => none

/-- The greatest exponent that is read digit by digit. -/
def exponentLimit : Nat := 2147483647

/-- The value of a number without a point or an exponent. -/
def wholeNumber? (negative : Bool) (whole : List Char) : Option Json :=
  let (significand, spare) := absorb 0 whole
  if spare ≠ [] then
    (scaledFloat? negative significand spare.length).map Json.float
  else if !negative then
    some (.integer significand)
  else if 0 < significand ∧ significand ≤ 9223372036854775808 then
    some (.integer (-(significand : Int)))
  else
    some (.float (Binary.ofNat significand).negate)

/-- The value of a number with a point or an exponent. -/
def floatNumber? (negative : Bool) (whole fraction : List Char) (down : Bool)
    (exponent : List Char) : Option Json :=
  let (leading, spare) := absorb 0 whole
  let (significand, ignored) := absorb leading fraction
  let places : Int := (spare.length : Int) - ((fraction.length : Int) - (ignored.length : Int))
  let power := Nat.ofDigitChars 10 exponent 0
  if exponentLimit < power then
    if significand ≠ 0 ∧ !down then none
    else some (.float (.finite negative 0 binary64.lowest))
  else
    let shifted := if down then places - power else places + power
    (scaledFloat? negative significand shifted).map Json.float

/-- The exponent part of a number, if there is one: whether it is negative,
its digits and what follows.  The outer `none` is a malformed exponent. -/
def readExponent (characters : List Char) : Option (Option (Bool × List Char) × List Char) :=
  match characters with
  | mark :: rest =>
      if mark = 'e' ∨ mark = 'E' then
        let (down, digits) := match rest with
          | '-' :: after => (true, after)
          | '+' :: after => (false, after)
          | _ => (false, rest)
        let power := digits.takeWhile Char.isDigit
        if power = [] then none else some (some (down, power), digits.dropWhile Char.isDigit)
      else
        some (none, characters)
  | [] => some (none, [])

/-- A number after its sign. -/
def readMagnitude (negative : Bool) (characters : List Char) : Option (Json × List Char) :=
  let whole := characters.takeWhile Char.isDigit
  let rest := characters.dropWhile Char.isDigit
  if whole = [] ∨ (whole.head? = some '0' ∧ whole.length ≠ 1) then none
  else
    match rest with
    | '.' :: after =>
        let fraction := after.takeWhile Char.isDigit
        if fraction = [] then none
        else
          match readExponent (after.dropWhile Char.isDigit) with
          | none => none
          | some (exponent, rest) =>
              let (down, power) := exponent.getD (false, [])
              (floatNumber? negative whole fraction down power).map fun value => (value, rest)
    | _ =>
        match readExponent rest with
        | none => none
        | some (none, rest) => (wholeNumber? negative whole).map fun value => (value, rest)
        | some (some (down, power), rest) =>
            (floatNumber? negative whole [] down power).map fun value => (value, rest)

/-- A number. -/
def readNumber : List Char → Option (Json × List Char)
  | '-' :: rest => readMagnitude true rest
  | characters => readMagnitude false characters

mutual

/-- A value with at most `depth` containers inside each other, and what
follows it.  `fuel` bounds the number of steps. -/
def readValue : Nat → Nat → List Char → Option (Json × List Char)
  | 0, _, _ => none
  | fuel + 1, depth, characters =>
      match skipGaps characters with
      | 'n' :: 'u' :: 'l' :: 'l' :: rest => some (.null, rest)
      | 't' :: 'r' :: 'u' :: 'e' :: rest => some (.bool true, rest)
      | 'f' :: 'a' :: 'l' :: 's' :: 'e' :: rest => some (.bool false, rest)
      | '"' :: rest => (readText rest).map fun (value, after) => (.text value, after)
      | '[' :: rest =>
          match depth with
          | 0 => none
          | depth + 1 =>
              match skipGaps rest with
              | ']' :: after => some (.list [], after)
              | _ => (readItems fuel depth rest).map fun (items, after) => (.list items, after)
      | '\x7b' :: rest =>
          match depth with
          | 0 => none
          | depth + 1 =>
              match skipGaps rest with
              | '\x7d' :: after => some (.object [], after)
              | _ =>
                  (readMembers fuel depth rest).map fun (members, after) => (record members, after)
      | rest => readNumber rest

/-- One or more items separated by commas, up to the closing bracket. -/
def readItems : Nat → Nat → List Char → Option (List Json × List Char)
  | 0, _, _ => none
  | fuel + 1, depth, characters =>
      match readValue fuel depth characters with
      | none => none
      | some (item, after) =>
          match skipGaps after with
          | ',' :: rest =>
              (readItems fuel depth rest).map fun (items, tail) => (item :: items, tail)
          | ']' :: rest => some ([item], rest)
          | _ => none

/-- One or more members separated by commas, up to the closing brace. -/
def readMembers : Nat → Nat → List Char → Option (List (String × Json) × List Char)
  | 0, _, _ => none
  | fuel + 1, depth, characters =>
      match skipGaps characters with
      | '"' :: afterQuote =>
          match readText afterQuote with
          | none => none
          | some (name, afterName) =>
              match skipGaps afterName with
              | ':' :: afterColon =>
                  match readValue fuel depth afterColon with
                  | none => none
                  | some (value, after) =>
                      match skipGaps after with
                      | ',' :: rest =>
                          (readMembers fuel depth rest).map fun (members, tail) =>
                            ((name, value) :: members, tail)
                      | '\x7d' :: rest => some ([(name, value)], rest)
                      | _ => none
              | _ => none
      | _ => none

end

/-- The value written by a whole text, blanks around it allowed. -/
def parse? (characters : List Char) : Option Json :=
  match readValue (2 * characters.length + 2) depthLimit characters with
  | some (value, rest) => if skipGaps rest = [] then some value else none
  | none => none

/-- The value written by the text that some bytes encode. -/
def ofBytes? (bytes : Bytes) : Option Json :=
  (decode? bytes).bind fun text => parse? text.toList

end WebHost.Json
