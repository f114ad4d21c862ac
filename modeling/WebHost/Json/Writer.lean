/-
Module: WebHost.Json.Writer
Purpose: The compact text of a JSON value.
Main exports:
  Json.write, Json.toText, Json.toBytes
-/
import WebHost.Json.Value
import WebHost.Number.Decimal
import WebHost.Text.Utf8

namespace WebHost.Json

open Number Text

/-!
The written form has no blanks.  In a string only the quote, the backslash and
the controls below U+0020 are escaped, by a letter where JSON has one and by
four hexadecimal digits elsewhere.  A double is written with its shortest
digits and at least one of them after the point: positionally from 10^-5 to
below 10^16, else with an exponent that carries its sign.
-/

/-- The letter after the backslash, for the characters that have one. -/
def escapeLetter? (character : Char) : Option Char :=
  if character = '"' then some '"'
  else if character = '\\' then some '\\'
  else if character = '\x08' then some 'b'
  else if character = '\x0c' then some 'f'
  else if character = '\n' then some 'n'
  else if character = '\r' then some 'r'
  else if character = '\t' then some 't'
  else none

/-- A number below sixteen as a small hexadecimal digit. -/
def hexDigit (number : Nat) : Char :=
  if number < 10 then Char.ofNat (number + 48) else Char.ofNat (number + 87)

/-- The written form of one character of a string. -/
def writeChar (character : Char) : List Char :=
  match escapeLetter? character with
  | some letter => ['\\', letter]
  | none =>
      if character.toNat < 0x20 then
        ['\\', 'u', '0', '0', hexDigit (character.toNat / 16), hexDigit (character.toNat % 16)]
      else
        [character]

/-- A string between its quotes. -/
def writeText (value : String) : List Char :=
  '"' :: (value.toList.flatMap writeChar ++ ['"'])

/-- An integer in decimal digits. -/
def writeInteger (value : Int) : List Char :=
  if value < 0 then '-' :: Nat.toDigits 10 value.natAbs else Nat.toDigits 10 value.natAbs

/-- The digits of a double with their point or exponent. -/
def writeDecimal (decimal : Decimal) : List Char :=
  let digits := Nat.toDigits 10 decimal.digits
  let point := (digits.length : Int) + decimal.power
  if decimal.digits = 0 ∨ (-5 < point ∧ point ≤ 16) then
    decimal.positional 1
  else
    let tail := digits.drop 1
    digits.take 1 ++ (if tail = [] then [] else '.' :: tail) ++
      ['e', if point ≤ 0 then '-' else '+'] ++ Nat.toDigits 10 (point - 1).natAbs

/-- A double; what is no finite number is written as null. -/
def writeFloat : Binary → List Char
  | .finite negative significand exponent =>
      let digits := writeDecimal (shortest binary64 significand exponent)
      if negative then '-' :: digits else digits
  | _ => "null".toList

mutual

/-- The compact written form of a value. -/
def write : Json → List Char
  | .null => "null".toList
  | .bool true => "true".toList
  | .bool false => "false".toList
  | .integer value => writeInteger value
  | .float value => writeFloat value
  | .text value => writeText value
  | .list [] => ['[', ']']
  | .list (item :: rest) => '[' :: (write item ++ writeItems rest)
  | .object [] => ['\x7b', '\x7d']
  | .object ((name, value) :: rest) =>
      '\x7b' :: (writeText name ++ ':' :: (write value ++ writeMembers rest))

/-- The items after the first, each after a comma, and the closing bracket. -/
def writeItems : List Json → List Char
  | [] => [']']
  | item :: rest => ',' :: (write item ++ writeItems rest)

/-- The members after the first, each after a comma, and the closing brace. -/
def writeMembers : List (String × Json) → List Char
  | [] => ['\x7d']
  | (name, value) :: rest =>
      ',' :: (writeText name ++ ':' :: (write value ++ writeMembers rest))

end

/-- The compact text of a value. -/
def toText (value : Json) : String :=
  String.ofList (write value)

/-- The encoding of the compact text. -/
def toBytes (value : Json) : Bytes :=
  encode value.toText

end WebHost.Json
