/-
Module: WebHost.Text.Hex
Purpose: Bytes as pairs of hexadecimal digits.
Main exports:
  hexText, hexBytes?, hexBytes?_hexText
-/
import WebHost.Json.Reader
import WebHost.Json.Writer

namespace WebHost

open Text

/-!
Each byte is two digits, the greater first.  They are written small and read in
either case.
-/

/-- The two digits of a byte. -/
def hexPair (byte : UInt8) : List Char :=
  [Json.hexDigit (byte.toNat / 16), Json.hexDigit (byte.toNat % 16)]

/-- The digits of some bytes. -/
def hexText (bytes : Bytes) : String :=
  String.ofList (bytes.flatMap hexPair)

/-- The bytes that pairs of digits write. -/
def hexBytes? : List Char → Option Bytes
  | [] => some []
  | high :: low :: rest => do
      let first ← Json.hexValue? high
      let second ← Json.hexValue? low
      let tail ← hexBytes? rest
      some (UInt8.ofNat (first * 16 + second) :: tail)
  | _ => none

theorem hexValue?_hexDigit (digit : Fin 16) :
    Json.hexValue? (Json.hexDigit digit.val) = some digit.val := by
  revert digit
  decide

theorem hexBytes?_hexText (bytes : Bytes) : hexBytes? (hexText bytes).toList = some bytes := by
  simp only [hexText, String.toList_ofList]
  induction bytes with
  | nil => rfl
  | cons byte rest ih =>
      have high := hexValue?_hexDigit ⟨byte.toNat / 16, by have := byte.toNat_lt; omega⟩
      have low := hexValue?_hexDigit ⟨byte.toNat % 16, Nat.mod_lt _ (by decide)⟩
      have whole : UInt8.ofNat (byte.toNat / 16 * 16 + byte.toNat % 16) = byte := by
        rw [Nat.div_add_mod' byte.toNat 16]
        exact UInt8.ofNat_toNat
      simp only at high low
      simp only [List.flatMap_cons, hexPair, List.cons_append, List.nil_append, hexBytes?, high,
        low, ih, Option.bind_eq_bind, Option.bind_some, whole]

end WebHost
