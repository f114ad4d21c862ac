/-
Module: WebHost.Proofs.Url.Form
Purpose: Form encoding loses nothing, and what it joins is split where it was joined.
Main exports:
  formDecode, formDecode_formEncode, FragmentsOf, splitQuery_eq_iff, splitQuery_appendPairs,
  formDecodePair, formDecodePair_formPair, fragmentValue?_of_mem, fragmentValue?_of_unnamed
-/
import WebHost.Proofs.Header.Values
import WebHost.Proofs.Server.Paths
import WebHost.Proofs.Text.Pieces
import WebHost.Url.Form

namespace WebHost

open Text

/-!
The one who writes a query encodes names and values; the one who reads it splits
at ampersands and equals signs and never decodes.  They agree since no encoded
text holds either sign, so that a query is cut just where two texts were joined.
-/

/-! ### Decoding -/

/-- A plus sign stands for a space. -/
def plusAsSpace (byte : UInt8) : UInt8 := if byte = 43 then 32 else byte

/-- The text that a form-encoded text stands for. -/
def formDecode (text : String) : String :=
  decodeLossy (percentDecode ((encode text).map plusAsSpace))

/-- The name and the value in a fragment, cut at its first equals sign. -/
def formDecodePair (fragment : String) : String × String :=
  match cutAt '=' fragment.toList with
  | some (name, value) => (formDecode (String.ofList name), formDecode (String.ofList value))
  | none => (formDecode fragment, "")

/-- A digit of an encoded byte is one byte, which is read as that digit. -/
theorem capitalHexDigit_read (digit : Fin 16) :
    String.utf8EncodeChar (capitalHexDigit digit.val) =
        [UInt8.ofNat (capitalHexDigit digit.val).toNat] ∧
      plusAsSpace (UInt8.ofNat (capitalHexDigit digit.val).toNat) =
        UInt8.ofNat (capitalHexDigit digit.val).toNat ∧
      hexByteValue? (UInt8.ofNat (capitalHexDigit digit.val).toNat) = some digit.val := by
  revert digit
  decide

/-- An encoded byte is read back, whatever comes after it. -/
theorem percentDecode_formEncodeByte (byte : UInt8) (rest : Bytes) :
    percentDecode (((formEncodeByte byte).flatMap String.utf8EncodeChar).map plusAsSpace ++ rest) =
      byte :: percentDecode rest := by
  unfold formEncodeByte
  dsimp only
  split
  · rename_i space
    subst space
    have plus : ((['+'] : List Char).flatMap String.utf8EncodeChar).map plusAsSpace = [32] := by
      decide
    rw [plus]
    exact percentDecode_cons (by decide) rest
  · split
    · rename_i literal
      obtain ⟨ascii, kept⟩ := literal
      have single : String.utf8EncodeChar (Char.ofNat byte.toNat) = [byte] :=
        utf8EncodeChar_byteChar (UInt8.lt_iff_toNat_lt.1 ascii)
      have noPlus : byte ≠ 43 := by
        rintro rfl
        revert kept
        decide
      have noPercent : byte ≠ 37 := by
        rintro rfl
        revert kept
        decide
      rw [List.flatMap_singleton, single, List.map_singleton, plusAsSpace, if_neg noPlus]
      exact percentDecode_cons noPercent rest
    · obtain ⟨high, highKept, highRead⟩ :=
        capitalHexDigit_read ⟨byte.toNat / 16, by have := byte.toNat_lt; omega⟩
      obtain ⟨low, lowKept, lowRead⟩ :=
        capitalHexDigit_read ⟨byte.toNat % 16, Nat.mod_lt _ (by decide)⟩
      have percent : String.utf8EncodeChar '%' = [37] := by decide
      have kept : plusAsSpace 37 = 37 := by decide
      have whole : UInt8.ofNat (byte.toNat / 16 * 16 + byte.toNat % 16) = byte := by
        rw [Nat.div_add_mod' byte.toNat 16]
        exact UInt8.ofNat_toNat
      simp only at high highKept highRead low lowKept lowRead
      simp only [percentEncodeByte, List.flatMap_cons, List.flatMap_nil, percent, high, low,
        List.cons_append, List.nil_append, List.map_cons, List.map_nil, kept, highKept, lowKept,
        percentDecode, if_true, highRead, lowRead, whole]

theorem percentDecode_flatMap (bytes : Bytes) :
    percentDecode (((bytes.flatMap formEncodeByte).flatMap String.utf8EncodeChar).map
      plusAsSpace) = bytes := by
  induction bytes with
  | nil => rfl
  | cons byte rest ih =>
      rw [List.flatMap_cons, List.flatMap_append, List.map_append, percentDecode_formEncodeByte, ih]

/-- Every text is read back from its form-encoded form. -/
theorem formDecode_formEncode (text : String) : formDecode (formEncode text) = text := by
  unfold formDecode formEncode
  rw [encode_eq_flatMap (String.ofList _), String.toList_ofList, percentDecode_flatMap,
    decodeLossy_encode]

theorem formEncode_injective : Function.Injective formEncode :=
  Function.LeftInverse.injective formDecode_formEncode

/-! ### The signs that separate -/

/-- A character of form-encoded text. -/
def IsFormChar (character : Char) : Prop :=
  character.isAlphanum = true ∨ character ∈ ['*', '-', '.', '_', '+', '%']

theorem isAlphanum_capitalHexDigit (digit : Fin 16) :
    (capitalHexDigit digit.val).isAlphanum = true := by
  revert digit
  decide

theorem isFormChar_of_mem_formEncodeByte {byte : UInt8} {character : Char}
    (member : character ∈ formEncodeByte byte) : IsFormChar character := by
  unfold formEncodeByte at member
  dsimp only at member
  split at member
  · rw [List.mem_singleton.1 member]
    exact .inr (by decide)
  · split at member
    · rename_i literal
      rw [List.mem_singleton.1 member]
      refine literal.2.imp id fun mark => ?_
      have among := List.contains_iff_mem.1 mark
      exact List.mem_append_left ['+', '%'] among
    · have high := isAlphanum_capitalHexDigit
        ⟨byte.toNat / 16, by have := byte.toNat_lt; omega⟩
      have low := isAlphanum_capitalHexDigit ⟨byte.toNat % 16, Nat.mod_lt _ (by decide)⟩
      simp only [percentEncodeByte, List.mem_cons, List.not_mem_nil, or_false] at member
      rcases member with rfl | rfl | rfl
      · exact .inr (by decide)
      · exact .inl high
      · exact .inl low

theorem isFormChar_of_mem_formEncode {text : String} {character : Char}
    (member : character ∈ (formEncode text).toList) : IsFormChar character := by
  rw [formEncode, String.toList_ofList, List.mem_flatMap] at member
  obtain ⟨byte, -, among⟩ := member
  exact isFormChar_of_mem_formEncodeByte among

theorem equals_not_mem_formEncode (text : String) : '=' ∉ (formEncode text).toList := by
  intro member
  exact absurd (isFormChar_of_mem_formEncode member) (by unfold IsFormChar; decide)

theorem ampersand_not_mem_formEncode (text : String) : '&' ∉ (formEncode text).toList := by
  intro member
  exact absurd (isFormChar_of_mem_formEncode member) (by unfold IsFormChar; decide)

theorem toList_formPair (name value : String) :
    (formPair name value).toList =
      (formEncode name).toList ++ '=' :: (formEncode value).toList := by
  simp [formPair]

theorem ampersand_not_mem_formPair (name value : String) :
    '&' ∉ (formPair name value).toList := by
  rw [toList_formPair, List.mem_append, List.mem_cons]
  rintro (inside | equal | inside)
  · exact ampersand_not_mem_formEncode name inside
  · cases equal
  · exact ampersand_not_mem_formEncode value inside

/-- The first equals sign of a pair stands between its name and its value. -/
theorem cutAt_formPair (name value : String) :
    cutAt '=' (formPair name value).toList =
      some ((formEncode name).toList, (formEncode value).toList) :=
  cutAt_eq_some_iff.2 ⟨toList_formPair name value, equals_not_mem_formEncode name⟩

/-- A pair is read back from its fragment. -/
theorem formDecodePair_formPair (name value : String) :
    formDecodePair (formPair name value) = (name, value) := by
  simp only [formDecodePair, cutAt_formPair, String.ofList_toList, formDecode_formEncode]

/-! ### Fragments -/

/-- The fragments of a query: what stands between its ampersands and is not empty. -/
def FragmentsOf (query : Option String) (fragments : List String) : Prop :=
  match query with
  | none => fragments = []
  | some text => PiecesOf '&' (· ≠ []) text fragments

theorem splitQuery_eq_iff {query : Option String} {fragments : List String} :
    Request.splitQuery query = fragments ↔ FragmentsOf query fragments := by
  cases query with
  | none => exact eq_comm
  | some text => exact piecesOf_iff.symm

/-- One more pair is one more fragment. -/
theorem splitQuery_appendPair (query : Option String) (pair : String × String) :
    Request.splitQuery (appendPairs query [pair]) =
      Request.splitQuery query ++ [formPair pair.1 pair.2] := by
  have alone : (formPair pair.1 pair.2).toList.splitOn '&' = [(formPair pair.1 pair.2).toList] :=
    List.splitOn_eq_singleton (ampersand_not_mem_formPair pair.1 pair.2)
  have nonempty : (formPair pair.1 pair.2).toList ≠ [] := by
    rw [toList_formPair]
    exact List.append_ne_nil_of_right_ne_nil _ (List.cons_ne_nil _ _)
  have first : Request.splitQuery (some (formPair pair.1 pair.2)) = [formPair pair.1 pair.2] := by
    simp [Request.splitQuery, alone, nonempty]
  cases query with
  | none => exact first
  | some text =>
      by_cases empty : text = ""
      · subst empty
        exact first
      · have step : appendPairs (some text) [pair] =
            some (text ++ "&" ++ formPair pair.1 pair.2) := by
          simp [appendPairs]
        have characters : (text ++ "&" ++ formPair pair.1 pair.2).toList =
            text.toList ++ '&' :: (formPair pair.1 pair.2).toList := by
          simp
        simp [step, Request.splitQuery, characters, List.splitOn_append_cons_self, alone,
          nonempty]

/-- Each pair that is appended to a query is one fragment after those that it has. -/
theorem splitQuery_appendPairs (query : Option String) (pairs : List (String × String)) :
    Request.splitQuery (appendPairs query pairs) =
      Request.splitQuery query ++ pairs.map fun pair => formPair pair.1 pair.2 := by
  induction pairs generalizing query with
  | nil => exact (List.append_nil _).symm
  | cons pair rest ih =>
      have step : appendPairs query (pair :: rest) = appendPairs (appendPairs query [pair]) rest :=
        rfl
      rw [step, ih, splitQuery_appendPair, List.append_assoc, List.map_cons, List.singleton_append]

/-! ### Arguments -/

theorem fragmentValue?_formPair (key name value : String) :
    Request.fragmentValue? key (formPair name value) =
      if formEncode name = key then some (formEncode value) else none := by
  simp only [Request.fragmentValue?, cutAt_formPair, String.toList_inj, String.ofList_toList]

/-- Among pairs with different names, the value of each is found under its encoded
name. -/
theorem fragmentValue?_of_mem {pairs : List (String × String)} (distinct : (pairs.map (·.1)).Nodup)
    {pair : String × String} (member : pair ∈ pairs) :
    (pairs.map fun pair => formPair pair.1 pair.2).findSome?
        (Request.fragmentValue? (formEncode pair.1)) = some (formEncode pair.2) := by
  induction pairs with
  | nil => cases member
  | cons first rest ih =>
      obtain ⟨fresh, others⟩ := List.nodup_cons.1 distinct
      rw [List.map_cons, List.findSome?_cons, fragmentValue?_formPair]
      rcases List.mem_cons.1 member with rfl | later
      · rw [if_pos rfl]
      · have apart : formEncode first.1 ≠ formEncode pair.1 := by
          intro same
          have name : first.1 = pair.1 := formEncode_injective same
          exact fresh (List.mem_map.2 ⟨pair, later, name.symm⟩)
        rw [if_neg apart]
        exact ih others later

/-- A key that encodes none of the names has no value. -/
theorem fragmentValue?_of_unnamed {pairs : List (String × String)} {key : String}
    (unnamed : ∀ pair ∈ pairs, formEncode pair.1 ≠ key) :
    (pairs.map fun pair => formPair pair.1 pair.2).findSome? (Request.fragmentValue? key) =
      none := by
  rw [List.findSome?_eq_none_iff]
  intro fragment member
  obtain ⟨pair, among, rfl⟩ := List.mem_map.1 member
  rw [fragmentValue?_formPair, if_neg (unnamed pair among)]

end WebHost
