/-
Module: WebHost.Url.Host
Purpose: The host of a URL.
Main exports:
  UrlHost, UrlHost.text, UrlHost.parse?, UrlHost.parsePlain?
-/
import WebHost.Address
import WebHost.Percent
import WebHost.Text.Blank
import WebHost.Url.Punycode

namespace WebHost

open Number Text

/-!
The host of a special URL is an address or a domain.  A domain is
percent-decoded, brought to small letters and to ASCII, and must hold none of
the characters that delimit parts of a URL.  A domain whose last label is a
number is an address of four octets, which may have fewer parts and numbers in
other bases, or nothing.
-/

/-- A host. -/
inductive UrlHost where
  | domain (name : String)
  | four (number : Nat)
  | six (groups : List Nat)
deriving Repr, Inhabited, DecidableEq

namespace UrlHost

/-- Groups between colons, the first longest run of two or more zeros as `::`. -/
def sixText (groups : List Nat) : String :=
  let (start, length) := IpAddress.longestRun 0 groups
  if 2 ≤ length then
    IpAddress.groupsText (groups.take start) ++ "::" ++
      IpAddress.groupsText (groups.drop (start + length))
  else
    IpAddress.groupsText groups

/-- The host as it stands in a URL. -/
def text : UrlHost → String
  | .domain name => name
  | .four number =>
      IpAddress.octetsText
        [number / 16777216 % 256, number / 65536 % 256, number / 256 % 256, number % 256]
  | .six groups => "[" ++ sixText groups ++ "]"

/-- The number that a part of an address writes: decimal, octal after a zero, or
hexadecimal after `0x`.  The outer `none` is no number, the inner one is too
large. -/
def partNumber? (part : List Char) : Option (Option Nat) :=
  let (base, digits) := match part with
    | '0' :: 'x' :: rest => (16, rest)
    | '0' :: 'X' :: rest => (16, rest)
    | '0' :: second :: rest => (8, second :: rest)
    | _ => (10, part)
  if part = [] then none
  else
    let values := digits.map Json.hexValue?
    if values.all fun value => (value.map fun number => decide (number < base)).getD false then
      let number := values.foldl (fun sum value => sum * base + value.getD 0) 0
      some (if number < 4294967296 then some number else none)
    else
      none

/-- The parts of a domain, without an empty last one. -/
def domainParts (domain : List Char) : List (List Char) :=
  let parts := domain.splitOn '.'
  if parts.getLast? = some [] then parts.dropLast else parts

/-- The domain ends in a number, an empty last label apart. -/
def endsInNumber (domain : List Char) : Bool :=
  match (domainParts domain).getLast? with
  | some last => (last ≠ [] && last.all Char.isDigit) || (partNumber? last).isSome
  | none => false

/-- The address that some numbers write: all but the last are octets, the last
fills the rest. -/
def combineParts? (numbers : List Nat) : Option Nat :=
  match numbers.getLast? with
  | none => none
  | some last =>
      let leading := numbers.dropLast
      if 4 < numbers.length ∨ leading.any (fun number => decide (255 < number)) ∨
          Nat.pow 256 (4 - leading.length) ≤ last then none
      else
        some (leading.zipIdx.foldl
          (fun sum (number, index) => sum + number * Nat.pow 256 (3 - index)) last)

/-- The address that a domain writes. -/
def readFour? (domain : List Char) : Option Nat := do
  let numbers ← (domainParts domain).mapM fun part => do
    let number ← partNumber? part
    number
  combineParts? numbers

/-- Small letters for capitals, within the alphabets that pair them regularly;
fullwidth forms become ASCII. -/
def foldDomainChar (character : Char) : List Char :=
  let code := character.toNat
  if code < 0x80 then [character.toLower]
  else if code = 0x130 then ['i', '\u0307']
  else if code = 0xAD ∨ code = 0x200B ∨ code = 0x2060 ∨ code = 0xFEFF then []
  else if code = 0x3002 then ['.']
  else if 0xFF01 ≤ code ∧ code ≤ 0xFF5E then [(Char.ofNat (code - 0xFEE0)).toLower]
  else if (0xC0 ≤ code ∧ code ≤ 0xDE ∧ code ≠ 0xD7) ∨ (0x391 ≤ code ∧ code ≤ 0x3A9) ∨
      (0x410 ≤ code ∧ code ≤ 0x42F) then
    [Char.ofNat (code + 32)]
  else if 0x400 ≤ code ∧ code ≤ 0x40F then [Char.ofNat (code + 80)]
  else if (0x100 ≤ code ∧ code ≤ 0x137 ∨ 0x14A ≤ code ∧ code ≤ 0x177) ∧ code % 2 = 0 then
    [Char.ofNat (code + 1)]
  else if (0x139 ≤ code ∧ code ≤ 0x148) ∧ code % 2 = 1 then [Char.ofNat (code + 1)]
  else [character]

/-- Ranges of characters beyond ASCII that no domain holds: controls, joiners and
marks of direction, and what has no meaning of its own. -/
def foreignToDomains : List (Nat × Nat) :=
  [(0x80, 0x9F), (0x200C, 0x200F), (0x2028, 0x202E), (0x2066, 0x2069), (0xE000, 0xF8FF),
   (0xFDD0, 0xFDEF), (0xFFF9, 0xFFFF), (0xE0000, 0x10FFFF)]

/-- A character that no domain holds. -/
def isForbiddenInDomain (character : Char) : Bool :=
  character.toNat ≤ 0x20 || character.toNat = 0x7F || isBlank character ||
    foreignToDomains.any (fun (low, high) => low ≤ character.toNat && character.toNat ≤ high) ||
    ['#', '%', '/', ':', '<', '>', '?', '@', '[', '\\', ']', '^', '|'].contains character

/-- The mark before the ASCII form of a label with other characters. -/
def encodedMark : List Char := ['x', 'n', '-', '-']

/-- The label is the ASCII form of a folded label that is not ASCII itself. -/
def isEncodedLabel (written : List Char) : Bool :=
  match punycodeDecode? written with
  | none => false
  | some label =>
      label.flatMap foldDomainChar == label && !label.any isForbiddenInDomain &&
        label.any fun c => 0x80 ≤ c.toNat

/-- The ASCII form of a folded label. -/
def labelToAscii? (label : List Char) : Option (List Char) :=
  if label.all fun c => c.toNat < 0x80 then
    match encodedMark.isPrefixOf? label with
    | none => some label
    | some written => if isEncodedLabel written then some label else none
  else if encodedMark.isPrefixOf label then none
  else some (encodedMark ++ punycodeEncode label)

/-- The ASCII form of a domain. -/
def domainToAscii? (domain : String) : Option (List Char) :=
  let folded := domain.toList.flatMap foldDomainChar
  if folded.any isForbiddenInDomain then none
  else ((folded.splitOn '.').mapM labelToAscii?).map fun labels => ['.'].intercalate labels

/-- An address in brackets. -/
def readBracketed? (characters : List Char) : Option UrlHost :=
  match characters.getLast?, IpAddress.readSix? (characters.dropLast.drop 1) with
  | some ']', some (groups, []) => some (.six groups)
  | _, _ => none

/-- The host that a text writes in a special URL. -/
def parse? (characters : List Char) : Option UrlHost :=
  if characters.head? = some '[' then readBracketed? characters
  else do
    let decoded ← percentDecodeText? (String.ofList characters)
    let domain ← domainToAscii? decoded
    if domain = [] then none
    else if endsInNumber domain then (readFour? domain).map .four
    else some (.domain (String.ofList domain))

/-- A control character, which is escaped wherever it may stand. -/
def isControl (character : Char) : Bool :=
  character.toNat < 0x20 || character.toNat = 0x7F

/-- The host that a text writes in any other URL. -/
def parsePlain? (characters : List Char) : Option UrlHost :=
  if characters.head? = some '[' then readBracketed? characters
  else if characters.any fun c =>
      ['\x00', '\t', '\n', '\r', ' ', '#', '/', ':', '<', '>', '?', '@', '[', '\\', ']', '^',
        '|'].contains c then none
  else some (.domain (String.ofList (percentEncodeWith isControl characters)))

end UrlHost

end WebHost
