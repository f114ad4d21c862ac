/-
Module: WebHost.Toml.Scalar
Purpose: The scalar values of TOML: strings, numbers, dates and times.
Main exports:
  Toml.readBasic, Toml.readLiteral, Toml.readString, Toml.readNumeric, Toml.skipLineEnd
-/
import WebHost.Config.Document
import WebHost.Json.Reader
import WebHost.Number.Decimal

namespace WebHost.Toml

open Number

/-!
Every reader takes the characters from its value on and returns the value and
what follows it.  A line ends with a line feed, alone or after a carriage
return; inside strings of several lines both ends read as a line feed.
Controls other than the tab may stand nowhere.
-/

/-- A blank within a line. -/
def isGap (character : Char) : Bool :=
  character == ' ' || character == '\t'

def skipGaps (characters : List Char) : List Char :=
  characters.dropWhile isGap

/-- A character that may stand in a comment or a string of one line. -/
def isPrintable (character : Char) : Bool :=
  character == '\t' || (0x20 ≤ character.toNat && character.toNat ≠ 0x7F)

/-- What follows the end of a line, if a line ends here. -/
def skipNewline? : List Char → Option (List Char)
  | '\n' :: rest => some rest
  | '\r' :: '\n' :: rest => some rest
  | _ => none

/-- What follows a comment, if there is one here. -/
def skipComment (characters : List Char) : List Char :=
  match characters with
  | '#' :: rest => rest.dropWhile isPrintable
  | _ => characters

/-- What follows the end of a line after blanks and a comment; the text may end
there too. -/
def skipLineEnd? (characters : List Char) : Option (List Char) :=
  match skipComment (skipGaps characters) with
  | [] => some []
  | rest => skipNewline? rest

/-- The character with a code point written in hexadecimal digits. -/
def readCodePoint? (digits : List Char) : Option Char := do
  let code ← digits.foldlM (fun number digit => do
    let value ← Json.hexValue? digit
    some (number * 16 + value)) 0
  if code < 0xD800 ∨ (0xDFFF < code ∧ code ≤ 0x10FFFF) then some (Char.ofNat code) else none

/-- The character that a letter after a backslash stands for. -/
def unescapeLetter? (letter : Char) : Option Char :=
  if letter = 'b' then some '\x08'
  else if letter = 'f' then some '\x0c'
  else if letter = 'n' then some '\n'
  else if letter = 'r' then some '\r'
  else if letter = 't' then some '\t'
  else if letter = '"' then some '"'
  else if letter = '\\' then some '\\'
  else none

/-- An escape after its backslash. -/
def readEscape : List Char → Option (Char × List Char)
  | 'u' :: rest =>
      if 4 ≤ rest.length then
        (readCodePoint? (rest.take 4)).map fun character => (character, rest.drop 4)
      else none
  | 'U' :: rest =>
      if 8 ≤ rest.length then
        (readCodePoint? (rest.take 8)).map fun character => (character, rest.drop 8)
      else none
  | letter :: rest => (unescapeLetter? letter).map fun character => (character, rest)
  | [] => none

/-- The characters of a basic string of one line up to its quote. -/
def readBasicOnto : Nat → List Char → List Char → Option (List Char × List Char)
  | 0, _, _ => none
  | fuel + 1, read, characters =>
      match characters with
      | [] => none
      | '"' :: rest => some (read, rest)
      | '\\' :: rest =>
          match readEscape rest with
          | some (character, after) => readBasicOnto fuel (character :: read) after
          | none => none
      | character :: rest =>
          if isPrintable character then readBasicOnto fuel (character :: read) rest else none

/-- A basic string of one line after its opening quote. -/
def readBasic (characters : List Char) : Option (String × List Char) :=
  (readBasicOnto (characters.length + 1) [] characters).map fun (read, rest) =>
    (String.ofList read.reverse, rest)

/-- A literal string of one line after its opening apostrophe. -/
def readLiteral (characters : List Char) : Option (String × List Char) :=
  let content := characters.takeWhile fun c => isPrintable c && c != '\''
  match characters.drop content.length with
  | '\'' :: rest => some (String.ofList content, rest)
  | _ => none

/-- The length of the run of quotes here. -/
def quoteRun (quote : Char) (characters : List Char) : Nat :=
  (characters.takeWhile (· == quote)).length

/-- Blanks and line ends after a backslash that ends a line. -/
def skipFolded : Nat → List Char → List Char
  | 0, characters => characters
  | fuel + 1, characters =>
      let rest := skipGaps characters
      match skipNewline? rest with
      | some after => skipFolded fuel after
      | none => rest

/-- The characters of a string of several lines.  Up to two quotes may stand
right before the three that close it.  Escapes are read if `escapes` says so. -/
def readLinesOnto (quote : Char) (escapes : Bool) :
    Nat → List Char → List Char → Option (List Char × List Char)
  | 0, _, _ => none
  | fuel + 1, read, characters =>
      let quotes := quoteRun quote characters
      if 3 ≤ quotes then
        let inside := min 2 (quotes - 3)
        some (List.replicate inside quote ++ read, characters.drop (inside + 3))
      else
        match characters with
        | [] => none
        | character :: rest =>
            if character = '\\' ∧ escapes then
              match skipNewline? (skipGaps rest) with
              | some after => readLinesOnto quote escapes fuel read (skipFolded fuel after)
              | none =>
                  match readEscape rest with
                  | some (escaped, after) =>
                      readLinesOnto quote escapes fuel (escaped :: read) after
                  | none => none
            else
              match skipNewline? characters with
              | some after => readLinesOnto quote escapes fuel ('\n' :: read) after
              | none =>
                  if isPrintable character then
                    readLinesOnto quote escapes fuel (character :: read) rest
                  else
                    none

/-- A string of several lines after its opening quotes; a line end right there
is no part of it. -/
def readLines (quote : Char) (escapes : Bool) (characters : List Char) :
    Option (String × List Char) :=
  let start := (skipNewline? characters).getD characters
  (readLinesOnto quote escapes (start.length + 1) [] start).map fun (read, rest) =>
    (String.ofList read.reverse, rest)

/-- A string of any of the four kinds. -/
def readString : List Char → Option (String × List Char)
  | '"' :: '"' :: '"' :: rest => readLines '"' true rest
  | '"' :: rest => readBasic rest
  | '\'' :: '\'' :: '\'' :: rest => readLines '\'' false rest
  | '\'' :: rest => readLiteral rest
  | _ => none

/-- Digits between which single underscores may stand, which are dropped. -/
def readSpaced (isDigit : Char → Bool) : List Char → Option (List Char × List Char)
  | [] => none
  | [first] => if isDigit first then some ([first], []) else none
  | first :: second :: rest =>
      if !isDigit first then none
      else if second = '_' then
        (readSpaced isDigit rest).map fun (digits, tail) => (first :: digits, tail)
      else if isDigit second then
        (readSpaced isDigit (second :: rest)).map fun (digits, tail) => (first :: digits, tail)
      else
        some ([first], second :: rest)

/-- The number of exactly `count` digits here, between two bounds. -/
def readFixed (count low high : Nat) (characters : List Char) : Option (Nat × List Char) :=
  let digits := characters.take count
  match readDigits? digits with
  | some number =>
      if digits.length = count ∧ low ≤ number ∧ number ≤ high then
        some (number, characters.drop count)
      else none
  | none => none

/-- The days of a month. -/
def daysIn (year month : Nat) : Nat :=
  if month = 2 then
    if year % 4 = 0 ∧ (year % 100 ≠ 0 ∨ year % 400 = 0) then 29 else 28
  else if [4, 6, 9, 11].contains month then 30
  else 31

/-- What a reader finds that may decline: another kind of value, an error, or
what follows the value. -/
inductive Attempt where
  | declined
  | malformed
  | accepted (rest : List Char)
deriving Repr, Inhabited, DecidableEq

/-- The fraction of a second, if there is one. -/
def skipFraction (characters : List Char) : List Char :=
  match characters with
  | '.' :: rest =>
      if rest.takeWhile Char.isDigit = [] then characters else rest.dropWhile Char.isDigit
  | _ => characters

/-- A time of day.  It is one from the colon after the hour on. -/
def skipTime (characters : List Char) : Attempt :=
  match readFixed 2 0 23 characters with
  | some (_, ':' :: afterHour) =>
      match readFixed 2 0 59 afterHour with
      | some (_, ':' :: afterMinute) =>
          match readFixed 2 0 60 afterMinute with
          | some (_, rest) => .accepted (skipFraction rest)
          | none => .malformed
      | _ => .malformed
  | _ => .declined

/-- An offset from universal time, if there is one. -/
def skipOffset (characters : List Char) : Attempt :=
  match characters with
  | [] => .declined
  | mark :: rest =>
      if mark = 'Z' ∨ mark = 'z' then .accepted rest
      else if mark = '+' ∨ mark = '-' then
        match readFixed 2 0 23 rest with
        | some (_, ':' :: afterHour) =>
            match readFixed 2 0 59 afterHour with
            | some (_, after) => .accepted after
            | none => .malformed
        | _ => .malformed
      else .declined

/-- A date.  It is one from the hyphen after the year on. -/
def skipDate (characters : List Char) : Attempt :=
  match readFixed 4 0 9999 characters with
  | some (year, '-' :: afterYear) =>
      match readFixed 2 1 12 afterYear with
      | some (month, '-' :: afterMonth) =>
          match readFixed 2 1 31 afterMonth with
          | some (day, rest) => if day ≤ daysIn year month then .accepted rest else .malformed
          | none => .malformed
      | _ => .malformed
  | _ => .declined

/-- A date with or without a time, or a time alone. -/
def skipMoment (characters : List Char) : Attempt :=
  match skipDate characters with
  | .malformed => .malformed
  | .declined => skipTime characters
  | .accepted afterDate =>
      match afterDate with
      | delimiter :: rest =>
          if ['T', 't', ' '].contains delimiter then
            match skipTime rest with
            | .declined => .accepted afterDate
            | .malformed => .malformed
            | .accepted afterTime =>
                match skipOffset afterTime with
                | .declined => .accepted afterTime
                | outcome => outcome
          else .accepted afterDate
      | [] => .accepted []

/-- The bounds of whole numbers. -/
def wholeInRange (value : Int) : Bool :=
  -9223372036854775808 ≤ value && value < 9223372036854775808

/-- A whole number written in digits of some base. -/
def readBased (base : Nat) (characters : List Char) : Option (Document × List Char) :=
  let isDigit := fun character =>
    match Json.hexValue? character with
    | some value => decide (value < base)
    | none => false
  match readSpaced isDigit characters with
  | some (digits, rest) =>
      let value := digits.foldl
        (fun number digit => number * base + (Json.hexValue? digit).getD 0) 0
      if wholeInRange value then some (.whole value, rest) else none
  | none => none

/-- An exponent, if there is one: its value.  The outer `none` is malformed. -/
def readPower (characters : List Char) : Option (Option Int × List Char) :=
  match characters with
  | mark :: rest =>
      if mark = 'e' ∨ mark = 'E' then
        let (down, digits) := match rest with
          | '-' :: after => (true, after)
          | '+' :: after => (false, after)
          | _ => (false, rest)
        (readSpaced Char.isDigit digits).map fun (power, after) =>
          let value : Int := Nat.ofDigitChars 10 power 0
          (some (if down then -value else value), after)
      else some (none, characters)
  | [] => some (none, [])

/-- The whole part of a number: a lone zero, or digits without a leading one. -/
def readWholePart (characters : List Char) : Option (List Char × List Char) :=
  match characters with
  | '0' :: rest => some (['0'], rest)
  | _ => readSpaced Char.isDigit characters

/-- A float with these parts.  One too large for a double is refused, unless it
is negative. -/
def float? (negative : Bool) (whole fraction : List Char) (power : Int) : Option Document :=
  let digits := Nat.ofDigitChars 10 (whole ++ fraction) 0
  let value := Binary.ofDecimal binary64 negative digits (power - (fraction.length : Int))
  if value = .infinite false then none else some (.real value)

/-- A number in decimal digits, after its sign. -/
def readDecimalNumber (negative : Bool) (characters : List Char) :
    Option (Document × List Char) :=
  match readWholePart characters with
  | none => none
  | some (whole, '.' :: afterPoint) =>
      match readSpaced Char.isDigit afterPoint with
      | none => none
      | some (fraction, rest) =>
          match readPower rest with
          | none => none
          | some (power, after) =>
              (float? negative whole fraction (power.getD 0)).map fun value => (value, after)
  | some (whole, rest) =>
      match readPower rest with
      | none => none
      | some (some power, after) =>
          (float? negative whole [] power).map fun value => (value, after)
      | some (none, after) =>
          let magnitude : Int := Nat.ofDigitChars 10 whole 0
          let value := if negative then -magnitude else magnitude
          if wholeInRange value then some (.whole value, after) else none

/-- An infinity, or what is not a number, after its sign. -/
def readSpecial (negative : Bool) : List Char → Option (Document × List Char)
  | 'i' :: 'n' :: 'f' :: rest => some (.real (.infinite negative), rest)
  | 'n' :: 'a' :: 'n' :: rest => some (.real .notANumber, rest)
  | _ => none

/-- A number after its sign. -/
def readUnsigned (negative : Bool) (characters : List Char) : Option (Document × List Char) :=
  match readSpecial negative characters with
  | some found => some found
  | none => readDecimalNumber negative characters

/-- A number, a date or a time. -/
def readNumeric (characters : List Char) : Option (Document × List Char) :=
  match skipMoment characters with
  | .malformed => none
  | .accepted rest => some (.moment, rest)
  | .declined =>
      match characters with
      | '0' :: 'x' :: rest => readBased 16 rest
      | '0' :: 'o' :: rest => readBased 8 rest
      | '0' :: 'b' :: rest => readBased 2 rest
      | '-' :: rest => readUnsigned true rest
      | '+' :: rest => readUnsigned false rest
      | _ => readUnsigned false characters

end WebHost.Toml
