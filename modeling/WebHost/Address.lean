/-
Module: WebHost.Address
Purpose: Socket addresses: their grammar and their text.
Main exports:
  IpAddress, SocketAddress, SocketAddress.parse?, SocketAddress.text, IpAddress.text
-/
import WebHost.Number.Natural
import WebHost.Text.Ascii

namespace WebHost

open Number Text

/-!
An address is four octets between dots, without leading zeros, or eight groups
of at most four hexadecimal digits between colons, where `::` stands for one or
more groups of zeros and the last two groups may be written as four octets.  A
socket address adds a port, which may have leading zeros; an address of groups
then stands in brackets, with an optional numeric scope after a percent sign.
-/

/-- An internet address. -/
inductive IpAddress where
  | four (octets : List Nat)
  | six (groups : List Nat)
deriving Repr, Inhabited, DecidableEq

/-- An internet address with its scope and a port. -/
structure SocketAddress where
  ip : IpAddress
  scope : Nat
  port : Nat
deriving Repr, Inhabited, DecidableEq

namespace IpAddress

/-- The characters that start a number, and the rest. -/
def cutDigits (isDigit : Char → Bool) (characters : List Char) : List Char × List Char :=
  (characters.takeWhile isDigit, characters.dropWhile isDigit)

/-- One octet: up to three digits without a leading zero, below 256. -/
def readOctet? (characters : List Char) : Option (Nat × List Char) :=
  let (digits, rest) := cutDigits Char.isDigit characters
  match readDigits? digits with
  | some number =>
      if digits.length ≤ 3 ∧ number < 256 ∧ (digits.head? ≠ some '0' ∨ digits.length = 1) then
        some (number, rest)
      else
        none
  | none => none

/-- Further octets, each after a dot. -/
def readOctets? : Nat → List Char → Option (List Nat × List Char)
  | 0, characters => some ([], characters)
  | count + 1, '.' :: rest =>
      match readOctet? rest with
      | some (octet, after) =>
          (readOctets? count after).map fun (octets, tail) => (octet :: octets, tail)
      | none => none
  | _ + 1, _ => none

/-- An address of four octets. -/
def readFour? (characters : List Char) : Option (List Nat × List Char) :=
  match readOctet? characters with
  | some (octet, rest) =>
      (readOctets? 3 rest).map fun (octets, tail) => (octet :: octets, tail)
  | none => none

/-- A digit of a group, in either letter case. -/
def isHexDigit (character : Char) : Bool :=
  character.isDigit || ('a' ≤ character && character ≤ 'f') || ('A' ≤ character && character ≤ 'F')

/-- The value of a digit of a group. -/
def hexDigitValue (character : Char) : Nat :=
  if character.isDigit then character.toNat - 48
  else character.toLower.toNat - 87

/-- One group: one to four hexadecimal digits. -/
def readGroup? (characters : List Char) : Option (Nat × List Char) :=
  let (digits, rest) := cutDigits isHexDigit characters
  if digits ≠ [] ∧ digits.length ≤ 4 then
    some (digits.foldl (fun number digit => number * 16 + hexDigitValue digit) 0, rest)
  else
    none

/-- Skip the colon between groups; before the first group there is none. -/
def skipSeparator? (first : Bool) (characters : List Char) : Option (List Char) :=
  if first then some characters
  else
    match characters with
    | ':' :: rest => some rest
    | _ => none

/-- As many groups as there are, at most `room`.  Four octets count as two
groups and end the run, which the flag tells. -/
def readGroups : Nat → Bool → List Char → List Nat × Bool × List Char
  | 0, _, characters => ([], false, characters)
  | room + 1, first, characters =>
      match skipSeparator? first characters with
      | none => ([], false, characters)
      | some start =>
          let embedded := if room = 0 then none else readFour? start
          match embedded with
          | some ([a, b, c, d], rest) => ([a * 256 + b, c * 256 + d], true, rest)
          | _ =>
              match readGroup? start with
              | none => ([], false, characters)
              | some (group, rest) =>
                  let (groups, octets, tail) := readGroups room false rest
                  (group :: groups, octets, tail)

/-- An address of eight groups. -/
def readSix? (characters : List Char) : Option (List Nat × List Char) :=
  let (head, octets, rest) := readGroups 8 true characters
  if head.length = 8 then some (head, rest)
  else if octets then none
  else
    match rest with
    | ':' :: ':' :: after =>
        let (tail, _, remaining) := readGroups (7 - head.length) true after
        some (head ++ List.replicate (8 - head.length - tail.length) 0 ++ tail, remaining)
    | _ => none

/-- Four octets between dots. -/
def octetsText (octets : List Nat) : String :=
  ".".intercalate (octets.map naturalText)

/-- Groups between colons. -/
def groupsText (groups : List Nat) : String :=
  ":".intercalate (groups.map fun group => String.ofList (Nat.toDigits 16 group))

/-- The length of the run of zeros at the start. -/
def zeroRun (groups : List Nat) : Nat :=
  (groups.takeWhile (· == 0)).length

/-- Start and length of the first longest run of zeros from some position on. -/
def longestRun : Nat → List Nat → Nat × Nat
  | _, [] => (0, 0)
  | position, group :: rest =>
      let here := zeroRun (group :: rest)
      let later := longestRun (position + 1) rest
      if later.2 ≤ here then (position, here) else later

/-- The shortest usual text of an address: small letters, no leading zeros, the
first longest run of two or more zero groups as `::`, and an embedded address
of four octets as octets. -/
def text : IpAddress → String
  | .four octets => octetsText octets
  | .six groups =>
      match groups with
      | [0, 0, 0, 0, 0, 0xffff, high, low] =>
          "::ffff:" ++ octetsText [high / 256, high % 256, low / 256, low % 256]
      | _ =>
          let (start, length) := longestRun 0 groups
          if 2 ≤ length then
            groupsText (groups.take start) ++ "::" ++ groupsText (groups.drop (start + length))
          else
            groupsText groups

end IpAddress

namespace SocketAddress

open IpAddress

/-- A port after its colon, which ends the text. -/
def readPort? : List Char → Option Nat
  | ':' :: digits => (readDigits? digits).filter (· < 65536)
  | _ => none

/-- A scope after its percent sign; there may be none. -/
def readScope (characters : List Char) : Nat × List Char :=
  match characters with
  | '%' :: rest =>
      let (digits, after) := cutDigits Char.isDigit rest
      match (readDigits? digits).filter (· < 4294967296) with
      | some scope => (scope, after)
      | none => (0, characters)
  | _ => (0, characters)

/-- The socket address that a text writes. -/
def parse? (text : String) : Option SocketAddress :=
  match text.toList with
  | '[' :: rest =>
      match readSix? rest with
      | some (groups, afterGroups) =>
          let (scope, afterScope) := readScope afterGroups
          match afterScope with
          | ']' :: afterBracket =>
              (readPort? afterBracket).map fun port =>
                { ip := .six groups, scope := scope, port := port }
          | _ => none
      | none => none
  | characters =>
      match readFour? characters with
      | some (octets, rest) =>
          (readPort? rest).map fun port => { ip := .four octets, scope := 0, port := port }
      | none => none

/-- The text of a socket address. -/
def text (address : SocketAddress) : String :=
  match address.ip with
  | .four octets => octetsText octets ++ ":" ++ naturalText address.port
  | .six groups =>
      let scope := if address.scope = 0 then "" else "%" ++ naturalText address.scope
      "[" ++ (IpAddress.six groups).text ++ scope ++ "]:" ++ naturalText address.port

end SocketAddress

end WebHost
