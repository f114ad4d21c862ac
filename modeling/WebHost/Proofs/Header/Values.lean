/-
Module: WebHost.Proofs.Header.Values
Purpose: Text as a value of a header field, and the values that setting leaves.
Main exports:
  isValueByte_iff, isVisibleByte_iff, IsVisible, byteChar, encode_byteChars,
  text?_of_visible, ofText?_of_visible, bytes_of_ofText?, IsLegalValue, isLegalValue_iff,
  text?_isSome_iff_ascii, text?_of_ofText?, bytes_ofNatural, values_setValue,
  values_setValue_of_ne, values_setIfAbsent_of_ne
-/
import WebHost.Header.Fields
import WebHost.Proofs.Text.Utf8

namespace WebHost

open Number Text

/-!
A value holds the bytes of a text, and is read as that text if all of it is
visible.  Setting a name leaves the values of all other names alone.
-/

/-! ### Bytes of values -/

/-- The bytes that a value may hold, by their numbers. -/
theorem isValueByte_iff {byte : UInt8} :
    isValueByte byte = true ↔ byte.toNat = 9 ∨ (32 ≤ byte.toNat ∧ byte.toNat ≠ 127) := by
  unfold isValueByte
  rw [Bool.or_eq_true, Bool.and_eq_true, beq_iff_eq, decide_eq_true_eq, bne_iff_ne, ne_eq,
    UInt8.le_iff_toNat_le, ← UInt8.toNat_inj, ← UInt8.toNat_inj]
  rfl

/-- The bytes that are read as text, by their numbers. -/
theorem isVisibleByte_iff {byte : UInt8} :
    isVisibleByte byte = true ↔ byte.toNat = 9 ∨ (32 ≤ byte.toNat ∧ byte.toNat < 127) := by
  unfold isVisibleByte
  rw [Bool.or_eq_true, Bool.and_eq_true, beq_iff_eq, decide_eq_true_eq, decide_eq_true_eq,
    UInt8.le_iff_toNat_le, UInt8.lt_iff_toNat_lt, ← UInt8.toNat_inj]
  rfl

theorem isValueByte_of_isVisibleByte {byte : UInt8} (visible : isVisibleByte byte = true) :
    isValueByte byte = true := by
  rw [isVisibleByte_iff] at visible
  rw [isValueByte_iff]
  omega

/-! ### Visible text -/

/-- A character that a field value shows as text: a tab, a space, or a sign of
ASCII. -/
def IsVisible (character : Char) : Prop :=
  character.toNat = 9 ∨ (32 ≤ character.toNat ∧ character.toNat < 127)

instance (character : Char) : Decidable (IsVisible character) :=
  inferInstanceAs (Decidable (_ ∨ _))

/-- Visible text can be told by going through its characters. -/
theorem isVisible_of_all {characters : List Char}
    (all : characters.all (fun c => decide (IsVisible c)) = true) :
    ∀ c ∈ characters, IsVisible c := by
  intro character member
  exact of_decide_eq_true (List.all_eq_true.1 all character member)

theorem IsVisible.lt {character : Char} (visible : IsVisible character) :
    character.toNat < 128 := by
  unfold IsVisible at visible
  omega

theorem utf8EncodeChar_of_ascii {character : Char} (ascii : character.toNat < 128) :
    String.utf8EncodeChar character = [UInt8.ofNat character.toNat] := by
  have one : character.utf8Size = 1 := by
    apply Char.utf8Size_eq_one_iff.2
    rw [UInt32.le_iff_toNat_le]
    exact Nat.le_of_lt_succ ascii
  rw [String.utf8EncodeChar_eq_singleton one]
  rfl

theorem utf8EncodeChar_of_visible {character : Char} (visible : IsVisible character) :
    String.utf8EncodeChar character = [UInt8.ofNat character.toNat] :=
  utf8EncodeChar_of_ascii visible.lt

/-- The character with the number of a byte. -/
def byteChar (byte : UInt8) : Char := Char.ofNat byte.toNat

theorem toNat_byteChar (byte : UInt8) : (byteChar byte).toNat = byte.toNat := by
  have small := byte.toNat_lt
  have valid : byte.toNat.isValidChar := Or.inl (by omega)
  unfold byteChar Char.ofNat
  rw [dif_pos valid]
  rfl

theorem byteChar_injective : Function.Injective byteChar := by
  intro left right same
  have number := congrArg Char.toNat same
  rw [toNat_byteChar, toNat_byteChar] at number
  exact UInt8.toNat_inj.1 number

theorem utf8EncodeChar_byteChar {byte : UInt8} (ascii : byte.toNat < 128) :
    String.utf8EncodeChar (byteChar byte) = [byte] := by
  rw [utf8EncodeChar_of_ascii (by rwa [toNat_byteChar]), toNat_byteChar, UInt8.ofNat_toNat]

/-- ASCII bytes are the encoding of the text with their numbers. -/
theorem encode_byteChars {bytes : Bytes} (ascii : ∀ byte ∈ bytes, byte.toNat < 128) :
    encode (String.ofList (bytes.map byteChar)) = bytes := by
  rw [encode_eq_flatMap, String.toList_ofList]
  induction bytes with
  | nil => rfl
  | cons byte rest ih =>
      obtain ⟨here, there⟩ := List.forall_mem_cons.1 ascii
      rw [List.map_cons, List.flatMap_cons, utf8EncodeChar_byteChar here, ih there,
        List.singleton_append]

/-- Visible text takes one byte for a character. -/
theorem encode_of_visible {text : String} (visible : ∀ c ∈ text.toList, IsVisible c) :
    encode text = text.toList.map fun c => UInt8.ofNat c.toNat := by
  rw [encode_eq_flatMap]
  generalize text.toList = characters at visible ⊢
  induction characters with
  | nil => rfl
  | cons first rest ih =>
      obtain ⟨here, there⟩ := List.forall_mem_cons.1 visible
      rw [List.flatMap_cons, List.map_cons, utf8EncodeChar_of_visible here, ih there,
        List.singleton_append]

theorem toNat_byte_of_ascii {character : Char} (ascii : character.toNat < 128) :
    (UInt8.ofNat character.toNat).toNat = character.toNat := by
  rw [UInt8.toNat_ofNat']
  exact Nat.mod_eq_of_lt (Nat.lt_trans ascii (by decide))

theorem isVisibleByte_of_visible {character : Char} (visible : IsVisible character) :
    isVisibleByte (UInt8.ofNat character.toNat) = true := by
  rw [isVisibleByte_iff, toNat_byte_of_ascii visible.lt]
  exact visible

/-- A field value that holds visible text is read as that text. -/
theorem text?_of_visible {text : String} (visible : ∀ c ∈ text.toList, IsVisible c)
    {value : FieldValue} (held : value.bytes = encode text) : value.text? = some text := by
  unfold FieldValue.text?
  rw [held, encode_of_visible visible, if_pos]
  · rw [List.map_map]
    have same : text.toList.map ((fun byte : UInt8 => Char.ofNat byte.toNat) ∘
        fun c => UInt8.ofNat c.toNat) = text.toList := by
      conv => rhs; rw [← List.map_id text.toList]
      apply List.map_congr_left
      intro character member
      rw [Function.comp_apply, toNat_byte_of_ascii (visible character member).lt,
        Char.ofNat_toNat, id]
    rw [same, String.ofList_toList]
  · rw [List.all_eq_true]
    intro byte member
    obtain ⟨character, among, rfl⟩ := List.mem_map.1 member
    exact isVisibleByte_of_visible (visible character among)

/-- Visible text is a legal field value. -/
theorem ofText?_of_visible {text : String} (visible : ∀ c ∈ text.toList, IsVisible c) :
    ∃ value, FieldValue.ofText? text = some value ∧ value.text? = some text := by
  have legal : (encode text).all isValueByte = true := by
    rw [encode_of_visible visible, List.all_eq_true]
    intro byte member
    obtain ⟨character, among, rfl⟩ := List.mem_map.1 member
    exact isValueByte_of_isVisibleByte (isVisibleByte_of_visible (visible character among))
  refine ⟨⟨encode text, legal⟩, ?_, ?_⟩
  · exact FieldValue.ofBytes?_eq_some_iff.2 rfl
  · exact text?_of_visible visible rfl

theorem ofText?_eq_some_iff {text : String} {value : FieldValue} :
    FieldValue.ofText? text = some value ↔ value.bytes = encode text :=
  FieldValue.ofBytes?_eq_some_iff

theorem bytes_of_ofText? {text : String} {value : FieldValue}
    (legal : FieldValue.ofText? text = some value) : value.bytes = encode text :=
  ofText?_eq_some_iff.1 legal

/-! ### Legal text -/

/-- A text is a legal value of a header field. -/
def IsLegalValue (text : String) : Prop := (FieldValue.ofText? text).isSome = true

theorem isLegalValue_iff (text : String) :
    IsLegalValue text ↔ (encode text).all isValueByte = true := by
  unfold IsLegalValue FieldValue.ofText? FieldValue.ofBytes?
  split
  · rename_i legal
    simp [legal]
  · rename_i illegal
    simp [illegal]

/-- A text in two parts is legal when both of them are. -/
theorem isLegalValue_append (front back : String) :
    IsLegalValue (front ++ back) ↔ IsLegalValue front ∧ IsLegalValue back := by
  have joined : encode (front ++ back) = encode front ++ encode back := by
    simp [encode_eq_flatMap]
  rw [isLegalValue_iff, isLegalValue_iff, isLegalValue_iff, joined, List.all_append,
    Bool.and_eq_true]

/-- The bytes of a character are among those of a text that holds it. -/
theorem mem_encode_of_mem {text : String} {character : Char} (member : character ∈ text.toList)
    {byte : UInt8} (encoded : byte ∈ String.utf8EncodeChar character) : byte ∈ encode text := by
  rw [encode_eq_flatMap]
  exact List.mem_flatMap.2 ⟨character, member, encoded⟩

/-- The ASCII characters of a legal value are visible. -/
theorem isVisible_of_legal {text : String} {value : FieldValue}
    (legal : FieldValue.ofText? text = some value) {character : Char}
    (member : character ∈ text.toList) (ascii : character.toNat < 128) :
    IsVisible character := by
  have among : UInt8.ofNat character.toNat ∈ value.bytes := by
    rw [bytes_of_ofText? legal]
    apply mem_encode_of_mem member
    rw [utf8EncodeChar_of_ascii ascii]
    exact List.mem_singleton_self _
  have allowed := List.all_eq_true.1 value.legal _ among
  rw [isValueByte_iff, toNat_byte_of_ascii ascii] at allowed
  unfold IsVisible
  omega

/-- A legal value can be read as text exactly when its text is ASCII. -/
theorem text?_isSome_iff_ascii {text : String} {value : FieldValue}
    (legal : FieldValue.ofText? text = some value) :
    value.text?.isSome = true ↔ ∀ character ∈ text.toList, character.toNat < 128 := by
  constructor
  · intro shown character member
    have visible : value.bytes.all isVisibleByte = true := by
      unfold FieldValue.text? at shown
      split at shown
      · assumption
      · cases shown
    cases bytes : String.utf8EncodeChar character with
    | nil => exact absurd bytes String.utf8EncodeChar_ne_nil
    | cons first rest =>
        have among : first ∈ value.bytes := by
          rw [bytes_of_ofText? legal]
          exact mem_encode_of_mem member (by simp [bytes])
        have small := List.all_eq_true.1 visible first among
        rw [isVisibleByte_iff] at small
        have below : first.toNat < 128 := by omega
        rw [(utf8EncodeChar_of_ascii_head bytes (UInt8.lt_iff_toNat_lt.2 below)).1]
        exact below
  · intro ascii
    have visible : ∀ c ∈ text.toList, IsVisible c :=
      fun character member => isVisible_of_legal legal member (ascii character member)
    rw [text?_of_visible visible (bytes_of_ofText? legal)]
    rfl

/-- A legal value of ASCII is read as the text that it was made of. -/
theorem text?_of_ofText? {text : String} {value : FieldValue}
    (legal : FieldValue.ofText? text = some value)
    (ascii : ∀ character ∈ text.toList, character.toNat < 128) : value.text? = some text :=
  text?_of_visible (fun character member => isVisible_of_legal legal member (ascii character member))
    (bytes_of_ofText? legal)

/-! ### Numbers as values -/

/-- The digits of a number are a legal value, which is read as that text. -/
theorem isVisible_of_mem_naturalText (number : Nat) :
    ∀ character ∈ (naturalText number).toList, IsVisible character := by
  intro character member
  rw [naturalText, String.toList_ofList] at member
  have digit := Nat.isDigit_of_mem_toDigits (by decide) (by decide) member
  obtain ⟨low, high⟩ : 48 ≤ character.toNat ∧ character.toNat ≤ 57 :=
    Char.isDigit_iff_toNat.1 digit
  exact .inr ⟨by omega, by omega⟩

theorem bytes_ofNatural (number : Nat) :
    (FieldValue.ofNatural number).bytes = encode (naturalText number) := by
  obtain ⟨value, legal, -⟩ := ofText?_of_visible (isVisible_of_mem_naturalText number)
  have written : FieldValue.ofNatural number = value := by
    unfold naturalText at legal
    simp [FieldValue.ofNatural, FieldValue.ofTexts, legal]
  rw [written, bytes_of_ofText? legal]

/-! ### Values that are set -/

theorem values_setValue {text : String} {value : FieldValue}
    (legal : FieldValue.ofText? text = some value) (fields : Fields) (name other : FieldName) :
    (fields.setValue name text).values other =
      if name = other then [value] else fields.values other := by
  unfold Fields.setValue
  rw [legal]
  exact Fields.values_set fields name other value

theorem values_setValue_of_ne (fields : Fields) {name other : FieldName} (apart : name ≠ other)
    (text : String) : (fields.setValue name text).values other = fields.values other := by
  unfold Fields.setValue
  split
  · rw [Fields.values_set, if_neg apart]
  · rfl

theorem setValue_of_illegal {text : String} (illegal : FieldValue.ofText? text = none)
    (fields : Fields) (name : FieldName) : fields.setValue name text = fields := by
  rw [Fields.setValue, illegal]

theorem values_setIfAbsent_of_ne (fields : Fields) {name other : FieldName} (value : FieldValue)
    (apart : name ≠ other) :
    (fields.setIfAbsent name value).values other = fields.values other := by
  unfold Fields.setIfAbsent
  split
  · rfl
  · rw [Fields.values_set, if_neg apart]

end WebHost
