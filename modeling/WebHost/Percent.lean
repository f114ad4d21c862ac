/-
Module: WebHost.Percent
Purpose: Percent-encoding of bytes, undone and done.
Main exports:
  percentDecode, percentDecodeText?, percentEncodeByte, percentEncodeWith
-/
import WebHost.Json.Reader
import WebHost.Text.Utf8

namespace WebHost

open Text

/-!
A percent sign and two hexadecimal digits stand for one byte.  A percent sign
that no two such digits follow stands for itself, so every byte list decodes.
-/

/-- The value of a byte that is a hexadecimal digit. -/
def hexByteValue? (byte : UInt8) : Option Nat :=
  if byte < 0x80 then Json.hexValue? (Char.ofNat byte.toNat) else none

/-- Replace each percent sign and its two digits by the byte they stand for. -/
def percentDecode : Bytes → Bytes
  | [] => []
  | [byte] => [byte]
  | [first, second] => [first, second]
  | first :: second :: third :: rest =>
      if first = 37 then
        match hexByteValue? second, hexByteValue? third with
        | some high, some low => UInt8.ofNat (high * 16 + low) :: percentDecode rest
        | _, _ => first :: percentDecode (second :: third :: rest)
      else
        first :: percentDecode (second :: third :: rest)

/-- The text that a percent-encoded text stands for, if it is text. -/
def percentDecodeText? (text : String) : Option String :=
  decode? (percentDecode (encode text))

/-- A number below sixteen as a capital hexadecimal digit. -/
def capitalHexDigit (number : Nat) : Char :=
  if number < 10 then Char.ofNat (number + 48) else Char.ofNat (number + 55)

/-- The percent-encoded form of a byte. -/
def percentEncodeByte (byte : UInt8) : List Char :=
  ['%', capitalHexDigit (byte.toNat / 16), capitalHexDigit (byte.toNat % 16)]

/-- Encode the characters that `escapes` names, and all beyond ASCII. -/
def percentEncodeWith (escapes : Char → Bool) (characters : List Char) : List Char :=
  characters.flatMap fun character =>
    if 0x7F < character.toNat || escapes character then
      (encode (String.singleton character)).flatMap percentEncodeByte
    else
      [character]

end WebHost
