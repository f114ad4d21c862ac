/-
Module: WebHost.Url.Form
Purpose: Form encoding of names and values.
Main exports:
  formEncode, formPair, appendPairs
-/
import WebHost.Percent

namespace WebHost

open Text

/-!
Letters, digits and four marks stand for themselves, a space becomes a plus
sign, and every other byte is percent-encoded; so an encoded text holds neither
an ampersand nor an equals sign.
-/

/-- The form-encoded characters of a byte. -/
def formEncodeByte (byte : UInt8) : List Char :=
  let character := Char.ofNat byte.toNat
  if byte = 32 then ['+']
  else if byte < 0x80 ∧ (character.isAlphanum ∨ ['*', '-', '.', '_'].contains character) then
    [character]
  else percentEncodeByte byte

/-- The form-encoded form of a text. -/
def formEncode (text : String) : String :=
  String.ofList ((encode text).flatMap formEncodeByte)

/-- One name with its value. -/
def formPair (name value : String) : String :=
  formEncode name ++ "=" ++ formEncode value

/-- A query with further names and values. -/
def appendPairs (query : Option String) (pairs : List (String × String)) : Option String :=
  pairs.foldl
    (fun current (name, value) =>
      match current with
      | none => some (formPair name value)
      | some "" => some (formPair name value)
      | some text => some (text ++ "&" ++ formPair name value))
    query

end WebHost
