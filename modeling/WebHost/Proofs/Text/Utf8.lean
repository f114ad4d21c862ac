/-
Module: WebHost.Proofs.Text.Utf8
Purpose: Encodings as lists of bytes, and the first characters they show.
Main exports:
  decode?_eq_some_iff, encode_eq_flatMap, utf8EncodeChar_of_ascii_head,
  not_ascii_of_mem_utf8EncodeChar, head?_of_ascii_byte, forall_ascii, toLower_of_not_ascii
-/
import WebHost.Text.Utf8

namespace WebHost.Text

/-!
Reading and writing are inverse, so a byte list has at most one reading.  In an
encoding a byte below 0x80 stands for the ASCII character of that number and
for nothing else, which is what lets separators be recognised before or after
decoding alike.
-/

/-- Only the encoding of a text reads as that text. -/
theorem decode?_eq_some_iff {bytes : Bytes} {text : String} :
    decode? bytes = some text ↔ bytes = encode text := by
  constructor
  · intro read
    unfold decode? String.fromUTF8? at read
    split at read
    · cases read
      rfl
    · cases read
  · rintro rfl
    exact decode?_encode text

/-- A text is encoded character by character. -/
theorem encode_eq_flatMap (text : String) :
    encode text = text.toList.flatMap String.utf8EncodeChar := by
  have bytes : text.toByteArray = text.toList.utf8Encode := by
    rw [← String.toByteArray_ofList, String.ofList_toList]
  unfold encode
  rw [String.toUTF8_eq_toByteArray, bytes]
  simp [List.utf8Encode]

/-- The first byte of a character of several bytes has its high bit set. -/
private theorem not_ascii_or {mark : UInt8} (high : 0x80 ≤ mark.toNat) (bits : UInt8) :
    ¬ (bits ||| mark) < 0x80 := by
  intro below
  have shown : (bits ||| mark).toNat < 0x80 := UInt8.lt_iff_toNat_lt.1 below
  rw [UInt8.toNat_or] at shown
  have bound : mark.toNat ≤ bits.toNat ||| mark.toNat := Nat.right_le_or
  omega

/-- A character whose encoding starts below 0x80 is the ASCII character of that
number. -/
theorem utf8EncodeChar_of_ascii_head {character : Char} {byte : UInt8} {rest : Bytes}
    (encoded : String.utf8EncodeChar character = byte :: rest) (ascii : byte < 0x80) :
    character.toNat = byte.toNat ∧ rest = [] := by
  rcases character.utf8Size_eq with one | two | three | four
  · rw [String.utf8EncodeChar_eq_singleton one] at encoded
    obtain ⟨rfl, rfl⟩ := List.cons_eq_cons.1 encoded
    have small : character.val.toNat ≤ 127 :=
      UInt32.le_iff_toNat_le.1 (Char.utf8Size_eq_one_iff.1 one)
    refine ⟨?_, rfl⟩
    rw [UInt32.toNat_toUInt8]
    exact (Nat.mod_eq_of_lt (Nat.lt_of_le_of_lt small (by decide))).symm
  · rw [String.utf8EncodeChar_eq_cons_cons two] at encoded
    exact absurd ((List.cons_eq_cons.1 encoded).1 ▸ ascii) (not_ascii_or (by decide) _)
  · rw [String.utf8EncodeChar_eq_cons_cons_cons three] at encoded
    exact absurd ((List.cons_eq_cons.1 encoded).1 ▸ ascii) (not_ascii_or (by decide) _)
  · rw [String.utf8EncodeChar_eq_cons_cons_cons_cons four] at encoded
    exact absurd ((List.cons_eq_cons.1 encoded).1 ▸ ascii) (not_ascii_or (by decide) _)

/-- Every byte of a character beyond ASCII has its high bit set. -/
theorem not_ascii_of_mem_utf8EncodeChar {character : Char} (wide : 128 ≤ character.toNat)
    {byte : UInt8} (member : byte ∈ String.utf8EncodeChar character) : ¬ byte < 0x80 := by
  rcases character.utf8Size_eq with one | two | three | four
  · have small := UInt32.le_iff_toNat_le.1 (Char.utf8Size_eq_one_iff.1 one)
    exact absurd (Nat.lt_of_le_of_lt small (by decide)) (Nat.not_lt.2 wide)
  · rw [String.utf8EncodeChar_eq_cons_cons two] at member
    simp only [List.mem_cons, List.not_mem_nil, or_false] at member
    rcases member with rfl | rfl <;> exact not_ascii_or (by decide) _
  · rw [String.utf8EncodeChar_eq_cons_cons_cons three] at member
    simp only [List.mem_cons, List.not_mem_nil, or_false] at member
    rcases member with rfl | rfl | rfl <;> exact not_ascii_or (by decide) _
  · rw [String.utf8EncodeChar_eq_cons_cons_cons_cons four] at member
    simp only [List.mem_cons, List.not_mem_nil, or_false] at member
    rcases member with rfl | rfl | rfl | rfl <;> exact not_ascii_or (by decide) _

/-- A text whose encoding starts with an ASCII byte starts with that character. -/
theorem head?_of_ascii_byte {text : String} {character : Char} {rest : Bytes}
    (ascii : character.toNat < 0x80)
    (encoded : encode text = UInt8.ofNat character.toNat :: rest) :
    text.toList.head? = some character := by
  rw [encode_eq_flatMap] at encoded
  cases characters : text.toList with
  | nil => simp [characters] at encoded
  | cons first others =>
      rw [characters, List.flatMap_cons] at encoded
      cases bytes : String.utf8EncodeChar first with
      | nil => exact absurd bytes String.utf8EncodeChar_ne_nil
      | cons byte more =>
          rw [bytes, List.cons_append, List.cons_eq_cons] at encoded
          have small : byte < 0x80 := by
            rw [encoded.1, UInt8.lt_iff_toNat_lt, UInt8.toNat_ofNat']
            exact Nat.lt_of_le_of_lt (Nat.mod_le _ _) ascii
          have number : first.toNat = character.toNat := by
            rw [(utf8EncodeChar_of_ascii_head bytes small).1, encoded.1, UInt8.toNat_ofNat']
            exact Nat.mod_eq_of_lt (by omega)
          rw [List.head?_cons, Char.toNat_inj.1 number]

/-! ### The characters of ASCII -/

/-- What holds of all characters of ASCII can be told by going through them. -/
theorem forall_ascii {P : Char → Prop} (all : ∀ number : Fin 128, P (Char.ofNat number))
    {character : Char} (ascii : character.toNat < 128) : P character := by
  have own := all ⟨character.toNat, ascii⟩
  rwa [Char.ofNat_toNat] at own

/-- Beyond ASCII no character has a small form. -/
theorem toLower_of_not_ascii {character : Char} (wide : ¬ character.toNat < 128) :
    character.toLower = character := by
  unfold Char.toLower
  rw [dif_neg]
  rintro ⟨-, small⟩
  exact wide (Nat.lt_of_le_of_lt (UInt32.le_iff_toNat_le.1 small) (by decide))

end WebHost.Text
