/-
Module: WebHost.Digest.Base64
Purpose: Base64 text of bytes.
Main exports:
  base64Text, base64Bytes?
-/
import WebHost.Text.Utf8

namespace WebHost

open Text

/-!
Three bytes are four characters of six bits each; a last group of one or two
bytes is filled up with equals signs.
-/

/-- The characters for the numbers below sixty-four. -/
def base64Alphabet : List Char :=
  "ABCDEFGHIJKLMNOPQRSTUVWXYZabcdefghijklmnopqrstuvwxyz0123456789+/".toList

/-- The character for a number below sixty-four. -/
def base64Char (number : Nat) : Char :=
  (base64Alphabet[number % 64]?).getD 'A'

/-- The characters of the groups of a byte list. -/
def base64Chars : Bytes → List Char
  | [] => []
  | [a] => [base64Char (a.toNat / 4), base64Char (a.toNat % 4 * 16), '=', '=']
  | [a, b] =>
      [base64Char (a.toNat / 4), base64Char (a.toNat % 4 * 16 + b.toNat / 16),
        base64Char (b.toNat % 16 * 4), '=']
  | a :: b :: c :: rest =>
      base64Char (a.toNat / 4) :: base64Char (a.toNat % 4 * 16 + b.toNat / 16) ::
        base64Char (b.toNat % 16 * 4 + c.toNat / 64) :: base64Char (c.toNat % 64) ::
        base64Chars rest

/-- The Base64 text of some bytes. -/
def base64Text (bytes : Bytes) : String :=
  String.ofList (base64Chars bytes)

/-- The number that a character stands for. -/
def base64Value? (character : Char) : Option Nat :=
  base64Alphabet.findIdx? (· == character)

/-- The bytes of groups of four characters; only the last may be filled up. -/
def base64Bytes? : List Char → Option Bytes
  | [] => some []
  | [a, b, '=', '='] => do
      let x ← base64Value? a
      let y ← base64Value? b
      if y % 16 = 0 then some [UInt8.ofNat (x * 4 + y / 16)] else none
  | [a, b, c, '='] => do
      let x ← base64Value? a
      let y ← base64Value? b
      let z ← base64Value? c
      if z % 4 = 0 then
        some [UInt8.ofNat (x * 4 + y / 16), UInt8.ofNat (y % 16 * 16 + z / 4)]
      else none
  | a :: b :: c :: d :: rest => do
      let x ← base64Value? a
      let y ← base64Value? b
      let z ← base64Value? c
      let w ← base64Value? d
      let tail ← base64Bytes? rest
      some (UInt8.ofNat (x * 4 + y / 16) :: UInt8.ofNat (y % 16 * 16 + z / 4) ::
        UInt8.ofNat (z % 4 * 64 + w) :: tail)
  | _ => none

end WebHost
