/-
Module: WebHost.Text.Utf8
Purpose: Bytes and the text they encode.
Main exports:
  Bytes, encode, decode?, decodeLossy, decode?_encode, decodeLossy_encode
-/

namespace WebHost.Text

/-!
Bodies and header values are byte lists.  A text is written as its UTF-8
encoding.  Reading is strict (`decode?`, which refuses bytes that are no
encoding) or lossy (`decodeLossy`, which puts U+FFFD in the place of each
longest piece that begins like an encoded character and is not one).  Both
readings return the text that was written.
-/

/-- Uninterpreted data, such as a body or a header value. -/
abbrev Bytes := List UInt8

/-- The UTF-8 encoding of a text. -/
def encode (text : String) : Bytes :=
  text.toUTF8.data.toList

/-- The text whose encoding is `bytes`, if there is one. -/
def decode? (bytes : Bytes) : Option String :=
  String.fromUTF8? (ByteArray.mk bytes.toArray)

/-- The shape of a character announced by its first byte: how many bytes
follow, and between which bounds the first of those lies. -/
structure LeadShape where
  following : Nat
  low : UInt8
  high : UInt8
deriving Repr, Inhabited, DecidableEq

/-- The shape that a first byte announces, if it can begin a character of
several bytes.  The bounds exclude overlong forms, surrogates and values
beyond U+10FFFF. -/
def leadShape (lead : UInt8) : Option LeadShape :=
  if lead < 0xC2 then none
  else if lead < 0xE0 then some { following := 1, low := 0x80, high := 0xBF }
  else if lead = 0xE0 then some { following := 2, low := 0xA0, high := 0xBF }
  else if lead = 0xED then some { following := 2, low := 0x80, high := 0x9F }
  else if lead < 0xF0 then some { following := 2, low := 0x80, high := 0xBF }
  else if lead = 0xF0 then some { following := 3, low := 0x90, high := 0xBF }
  else if lead < 0xF4 then some { following := 3, low := 0x80, high := 0xBF }
  else if lead = 0xF4 then some { following := 3, low := 0x80, high := 0x8F }
  else none

/-- Read the bytes after a lead byte, adding six bits for each.  The value is
`none` when a byte does not fit; the list returned starts at that byte. -/
def readFollowing (low high : UInt8) : Nat → Nat → Bytes → Option Nat × Bytes
  | 0, value, bytes => (some value, bytes)
  | _ + 1, _, [] => (none, [])
  | count + 1, value, byte :: rest =>
      if low ≤ byte && byte ≤ high then
        readFollowing 0x80 0xBF count (value * 64 + (byte.toNat - 0x80)) rest
      else
        (none, byte :: rest)

theorem length_readFollowing (low high : UInt8) (count value : Nat) (bytes : Bytes) :
    (readFollowing low high count value bytes).2.length ≤ bytes.length := by
  fun_induction readFollowing low high count value bytes with
  | case1 => simp
  | case2 => simp
  | case3 low high value count byte rest _ ih => exact Nat.le_succ_of_le ih
  | case4 => simp

/-- The replacement character U+FFFD. -/
def replacement : Char := '\uFFFD'

/-- The first character of a non-empty byte list and the bytes after it. -/
def readLossy (lead : UInt8) (rest : Bytes) : Char × Bytes :=
  if lead < 0x80 then
    (Char.ofNat lead.toNat, rest)
  else
    match leadShape lead with
    | none => (replacement, rest)
    | some shape =>
        let leadBits := lead.toNat % Nat.pow 2 (6 - shape.following)
        match readFollowing shape.low shape.high shape.following leadBits rest with
        | (some value, after) => (Char.ofNat value, after)
        | (none, after) => (replacement, after)

theorem length_readLossy (lead : UInt8) (rest : Bytes) :
    (readLossy lead rest).2.length ≤ rest.length := by
  unfold readLossy
  split
  · exact Nat.le_refl _
  · split
    · exact Nat.le_refl _
    · rename_i shape _
      have bound := length_readFollowing shape.low shape.high shape.following
        (lead.toNat % Nat.pow 2 (6 - shape.following)) rest
      dsimp only
      split <;> (rename_i found; rw [found] at bound; exact bound)

/-- The characters of a byte list, in reverse, before those already read. -/
def decodeLossyOnto (read : List Char) : Bytes → List Char
  | [] => read
  | lead :: rest => decodeLossyOnto ((readLossy lead rest).1 :: read) (readLossy lead rest).2
termination_by bytes => bytes.length
decreasing_by exact Nat.lt_succ_of_le (length_readLossy lead rest)

/-- The text of a byte list, with U+FFFD in the place of what is no character. -/
def decodeLossy (bytes : Bytes) : String :=
  match decode? bytes with
  | some text => text
  | none => String.ofList (decodeLossyOnto [] bytes).reverse

theorem decode?_encode (text : String) : decode? (encode text) = some text := by
  have same : ByteArray.mk (encode text).toArray = text.toByteArray := by simp [encode]
  unfold decode?
  rw [same]
  unfold String.fromUTF8?
  rw [dif_pos text.isValidUTF8]
  rfl

theorem decodeLossy_encode (text : String) : decodeLossy (encode text) = text := by
  simp [decodeLossy, decode?_encode]

theorem encode_injective {left right : String} (same : encode left = encode right) :
    left = right := by
  have read := decode?_encode left
  rw [same, decode?_encode] at read
  exact (Option.some.inj read).symm

end WebHost.Text
