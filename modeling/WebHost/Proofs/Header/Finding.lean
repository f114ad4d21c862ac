/-
Module: WebHost.Proofs.Header.Finding
Purpose: What is found under a name in a header after the name was set or removed.
Main exports:
  SpellsName, parse?_eq_some_iff, parse?_isSome_iff, parse?_of_equalFold, Fields.HoldsOnly,
  Fields.AgreesBeside, set_text_found_iff_ascii
-/
import Mathlib
import WebHost.Proofs.Header.Values
import WebHost.Proofs.Text.Length

namespace WebHost

open Number Text

/-!
A name is known by its small letters, so that all its spellings find the same field.
A field that was set holds the bytes of its text and nothing else.  It is found as
that text if this is ASCII; other text is a legal value too, but is not found again.
-/

/-! ### Spellings of names -/

/-- A text spells a name: it is a token, in any letter case, and not too long. -/
structure SpellsName (spelling : String) : Prop where
  token : isToken spelling = true
  short : spelling.toList.length ≤ nameLimit

instance (spelling : String) : Decidable (SpellsName spelling) :=
  decidable_of_iff (isToken spelling = true ∧ spelling.toList.length ≤ nameLimit)
    ⟨fun ⟨token, short⟩ => ⟨token, short⟩, fun ⟨token, short⟩ => ⟨token, short⟩⟩

/-- A token stays one in small letters. -/
theorem isTokenChar_toLower (character : Char) :
    isTokenChar character.toLower = isTokenChar character := by
  by_cases ascii : character.toNat < 128
  · exact forall_ascii (P := fun c => isTokenChar c.toLower = isTokenChar c)
      (by decide +kernel) ascii
  · rw [toLower_of_not_ascii ascii]

theorem isFieldName_foldCase (spelling : String) :
    isFieldName (foldCase spelling) = true ↔ SpellsName spelling := by
  have token : isToken (foldCase spelling) = isToken spelling := by
    simp [isToken, foldCase, List.all_map, Function.comp_def, isTokenChar_toLower]
  have small : (foldCase spelling).toList.all (fun c => !c.isUpper) = true := by
    simp [foldCase, List.all_map, Function.comp_def, Char.isUpper_toLower_eq_false]
  have length : (foldCase spelling).toList.length = spelling.toList.length := by
    simp [foldCase]
  unfold isFieldName
  rw [token, small, length, Bool.and_true, Bool.and_eq_true, decide_eq_true_eq]
  exact ⟨fun ⟨token, short⟩ => ⟨token, short⟩, fun ⟨token, short⟩ => ⟨token, short⟩⟩

/-- A spelling is of the name that it is in small letters. -/
theorem parse?_eq_some_iff {spelling : String} {name : FieldName} :
    FieldName.parse? spelling = some name ↔ name.text = foldCase spelling := by
  obtain ⟨text, legal⟩ := name
  unfold FieldName.parse?
  dsimp only
  split
  · simp [eq_comm]
  · rename_i illegal
    simp only [reduceCtorEq, false_iff]
    exact fun same => illegal (same ▸ legal)

theorem parse?_isSome_iff {spelling : String} :
    (FieldName.parse? spelling).isSome = true ↔ SpellsName spelling := by
  rw [← isFieldName_foldCase]
  unfold FieldName.parse?
  dsimp only
  split <;> simp_all

theorem equalFold_iff_foldCase {left right : String} :
    equalFold left right = true ↔ foldCase left = foldCase right := by
  rw [equalFold, beq_iff_eq, foldCase, foldCase, String.ofList_inj]

section Spellings

variable {spelling other : String} {name : FieldName}

/-- Texts that are equal up to letter case spell the same name, or none. -/
theorem parse?_of_equalFold (same : equalFold other spelling = true) :
    FieldName.parse? other = FieldName.parse? spelling := by
  apply Option.ext
  intro name
  rw [parse?_eq_some_iff, parse?_eq_some_iff, equalFold_iff_foldCase.1 same]

/-- Spellings of one name are equal up to letter case. -/
theorem equalFold_of_parse? (first : FieldName.parse? other = some name)
    (second : FieldName.parse? spelling = some name) : equalFold other spelling = true := by
  rw [equalFold_iff_foldCase, ← parse?_eq_some_iff.1 first, parse?_eq_some_iff.1 second]

/-- A name is spelt by its own text. -/
theorem parse?_text (name : FieldName) : FieldName.parse? name.text = some name := by
  have small : ∀ character ∈ name.text.toList, character.toLower = character := by
    intro character member
    have legal := name.legal
    simp only [isFieldName, Bool.and_eq_true, List.all_eq_true, Bool.not_eq_true'] at legal
    exact Char.toLower_eq_of_not_isUpper (Bool.eq_false_iff.1 (legal.2 character member))
  rw [parse?_eq_some_iff, foldCase, List.map_congr_left small, List.map_id', String.ofList_toList]

/-- Reading a name asks for its values alone. -/
theorem text?_congr {before after : Fields} (same : after.values name = before.values name) :
    after.text? name = before.text? name := by
  unfold Fields.text? Fields.get?
  rw [same]

/-- What is found under a spelling is the first value of the name. -/
theorem find_of_parse? (fields : Fields) (named : FieldName.parse? spelling = some name) :
    fields.find spelling = (fields.values name).head?.bind FieldValue.text? := by
  unfold Fields.find
  rw [named]
  rfl

end Spellings

/-! ### What a change leaves -/

namespace Fields

/-- A name has one value, which holds a text.  Any spelling of the name finds the
text if it is ASCII, and finds nothing if it is not. -/
structure HoldsOnly (fields : Fields) (spelling text : String) : Prop where
  single : ∃ name value, FieldName.parse? spelling = some name ∧ value.bytes = encode text ∧
    fields.values name = [value]
  found : (∀ character ∈ text.toList, character.toNat < 128) →
    ∀ other, equalFold other spelling = true → fields.find other = some text
  unfound : ¬ (∀ character ∈ text.toList, character.toNat < 128) →
    ∀ other, equalFold other spelling = true → fields.find other = none

/-- A name has no value, and no spelling of it finds one. -/
structure HoldsNone (fields : Fields) (spelling : String) : Prop where
  values : ∀ name, FieldName.parse? spelling = some name → fields.values name = []
  unfound : ∀ other, equalFold other spelling = true → fields.find other = none

/-- Two headers have the same values under all names but one, and the same is found
in them. -/
structure AgreesBeside (before after : Fields) (spelling : String) : Prop where
  values : ∀ name, FieldName.parse? spelling ≠ some name → after.values name = before.values name
  find : ∀ other, equalFold other spelling = false → after.find other = before.find other

end Fields

section Changes

variable {fields before after : Fields} {spelling text : String} {name : FieldName}

theorem agreesBeside_of_values
    (same : ∀ name, FieldName.parse? spelling ≠ some name →
      after.values name = before.values name) : before.AgreesBeside after spelling where
  values := same
  find := by
    intro other apart
    unfold Fields.find
    cases named : FieldName.parse? other with
    | none => rfl
    | some name =>
        apply text?_congr
        apply same
        intro both
        exact absurd (equalFold_of_parse? named both) (Bool.eq_false_iff.1 apart)

theorem holdsOnly_of_values (named : FieldName.parse? spelling = some name) {value : FieldValue}
    (legal : FieldValue.ofText? text = some value) (single : fields.values name = [value]) :
    fields.HoldsOnly spelling text := by
  have shown : ∀ other, equalFold other spelling = true → fields.find other = value.text? := by
    intro other same
    rw [find_of_parse? fields ((parse?_of_equalFold same).trans named), single]
    rfl
  refine ⟨⟨name, value, named, bytes_of_ofText? legal, single⟩, ?_, ?_⟩
  · intro ascii other same
    rw [shown other same, text?_of_ofText? legal ascii]
  · intro foreign other same
    rw [shown other same, ← Option.not_isSome_iff_eq_none, text?_isSome_iff_ascii legal]
    exact foreign

theorem holdsNone_of_values
    (unheld : ∀ name, FieldName.parse? spelling = some name → fields.values name = []) :
    fields.HoldsNone spelling where
  values := unheld
  unfound := by
    intro other same
    cases named : FieldName.parse? spelling with
    | none =>
        unfold Fields.find
        rw [parse?_of_equalFold same, named]
        rfl
    | some name =>
        rw [find_of_parse? fields ((parse?_of_equalFold same).trans named), unheld name named]
        rfl

/-- A legal value takes the place of all that a name had. -/
theorem setValue_law (named : FieldName.parse? spelling = some name)
    (legal : IsLegalValue text) :
    (fields.setValue name text).HoldsOnly spelling text ∧
      fields.AgreesBeside (fields.setValue name text) spelling := by
  obtain ⟨value, legal⟩ := Option.isSome_iff_exists.1 legal
  constructor
  · refine holdsOnly_of_values named legal ?_
    rw [values_setValue legal, if_pos rfl]
  · refine agreesBeside_of_values fun other apart => ?_
    refine values_setValue_of_ne fields ?_ text
    rintro rfl
    exact apart named

theorem setText_of_parse? (named : FieldName.parse? spelling = some name) :
    fields.setText spelling text = fields.setValue name text := by
  delta Fields.setText
  rw [named]

theorem setText_of_illegal (illegal : ¬ (SpellsName spelling ∧ IsLegalValue text)) :
    fields.setText spelling text = fields := by
  delta Fields.setText
  cases named : FieldName.parse? spelling with
  | none => rfl
  | some name =>
      have spells : SpellsName spelling := parse?_isSome_iff.1 (by rw [named]; rfl)
      have unset : FieldValue.ofText? text = none :=
        Option.not_isSome_iff_eq_none.1 fun legal => illegal ⟨spells, legal⟩
      exact setValue_of_illegal unset fields name

theorem eraseText_law :
    (fields.eraseText spelling).HoldsNone spelling ∧
      fields.AgreesBeside (fields.eraseText spelling) spelling := by
  delta Fields.eraseText
  cases named : FieldName.parse? spelling with
  | none =>
      refine ⟨holdsNone_of_values fun name spelt => ?_, agreesBeside_of_values fun _ _ => rfl⟩
      rw [named] at spelt
      cases spelt
  | some name =>
      constructor
      · refine holdsNone_of_values fun other spelt => ?_
        rw [named] at spelt
        cases spelt
        rw [Fields.values_erase, if_pos rfl]
      · refine agreesBeside_of_values fun other apart => ?_
        rw [Fields.values_erase, if_neg]
        rintro rfl
        exact apart named

/-- A length that was set is the length that is read. -/
theorem contentLength_setContentLength {length : Nat} (fits : length < wordBound) :
    (fields.setContentLength length).contentLength = length := by
  have read :
      (fields.setContentLength length).text? .contentLength = some (naturalText length) := by
    unfold Fields.text? Fields.get? Fields.setContentLength
    rw [Fields.values_set, if_pos rfl]
    exact text?_of_visible (isVisible_of_mem_naturalText length) (bytes_ofNatural length)
  have declared : DeclaresLength (naturalText length) length := by
    refine ⟨[], [], Nat.toDigits 10 length, [], ?_, nofun, nofun, .inl rfl, ?_, fits⟩
    · simp [naturalText]
    · exact readDigits?_eq_some_iff.1 (readDigits?_toDigits length)
  unfold Fields.contentLength
  rw [read, Option.bind_some, readLength?_eq_some_iff.2 declared]
  rfl

end Changes

/-! ### The laws of a header -/

/-- A name that is set to a text, both legal, has that text as its only value, whatever
it had before, and any spelling of it finds the text if and only if that is ASCII; text
beyond ASCII is held but found by nobody.  If one of the two is not legal, nothing is
changed at all.  A name that is removed has no value.  Nothing changes under other
names.  Setting and reading a name that is known goes by its spelling, and a length that
a word holds is read as it was set. -/
theorem set_text_found_iff_ascii (fields : Fields) (spelling : String) :
    (∀ text, SpellsName spelling → IsLegalValue text →
      (fields.setText spelling text).HoldsOnly spelling text ∧
        fields.AgreesBeside (fields.setText spelling text) spelling) ∧
    (∀ text, ¬ (SpellsName spelling ∧ IsLegalValue text) →
      fields.setText spelling text = fields) ∧
    ((fields.eraseText spelling).HoldsNone spelling ∧
      fields.AgreesBeside (fields.eraseText spelling) spelling) ∧
    (∀ name : FieldName, fields.text? name = fields.find name.text ∧
      ∀ text, fields.setValue name text = fields.setText name.text text) ∧
    (∀ length, length < wordBound →
      (fields.setContentLength length).contentLength = length ∧
        (fields.setContentLength length).HoldsOnly "content-length" (naturalText length) ∧
        fields.AgreesBeside (fields.setContentLength length) "content-length") := by
  refine ⟨?_, fun text => setText_of_illegal, eraseText_law, ?_, ?_⟩
  · intro text spells legal
    obtain ⟨name, named⟩ := Option.isSome_iff_exists.1 (parse?_isSome_iff.2 spells)
    rw [setText_of_parse? named]
    exact setValue_law named legal
  · intro name
    refine ⟨?_, fun text => (setText_of_parse? (parse?_text name)).symm⟩
    unfold Fields.find
    rw [parse?_text]
    rfl
  · intro length fits
    have legal : FieldValue.ofText? (naturalText length) = some (.ofNatural length) :=
      ofText?_eq_some_iff.2 (bytes_ofNatural length)
    have same : fields.setContentLength length =
        fields.setValue .contentLength (naturalText length) := by
      unfold Fields.setContentLength Fields.setValue
      rw [legal]
    refine ⟨contentLength_setContentLength fits, ?_⟩
    rw [same]
    exact setValue_law (parse?_text .contentLength) (by rw [IsLegalValue, legal]; rfl)

/-- Of two values of `accept` none is left when it is set, in other letters. -/
theorem set_text_found_iff_ascii_accept :
    let fields : Fields :=
      { entries := [(.accept, .ofTexts ["text/html"]), (.server, .ofTexts ["é"]),
          (.accept, .ofTexts ["text/plain"])] }
    SpellsName "ACCEPT" ∧ IsLegalValue "*/*" ∧
      (fields.setText "ACCEPT" "*/*").find "Accept" = some "*/*" ∧
      ((fields.setText "ACCEPT" "*/*").values .accept).length = 1 ∧
      (fields.setText "ACCEPT" "*/*").values .server = fields.values .server ∧
      (fields.setText "ACCEPT" "a\nb") = fields ∧
      (fields.setContentLength 18446744073709551615).contentLength = 18446744073709551615 := by
  intro fields
  have spells : SpellsName "ACCEPT" := by decide
  have legal : IsLegalValue "*/*" := (isLegalValue_iff _).2 (by decide)
  have illegal : ¬ IsLegalValue "a\nb" := fun shown =>
    absurd ((isLegalValue_iff _).1 shown) (by decide)
  have ascii : ∀ character ∈ "*/*".toList, character.toNat < 128 :=
    fun character member => (isVisible_of_all (by decide) character member).lt
  obtain ⟨set, unset, -, -, counted⟩ := set_text_found_iff_ascii fields "ACCEPT"
  obtain ⟨⟨single, found, -⟩, others⟩ := set "*/*" spells legal
  refine ⟨spells, legal, found ascii "Accept" (by decide), ?_, ?_,
    unset "a\nb" fun both => illegal both.2, (counted _ (by decide)).1⟩
  · obtain ⟨name, value, named, -, only⟩ := single
    have accept : name.text = "accept" := (parse?_eq_some_iff.1 named).trans (by decide)
    have same : name = .accept := by
      cases name
      cases accept
      rfl
    rw [← same, only]
    rfl
  · exact others.values .server fun named => absurd (parse?_eq_some_iff.1 named) (by decide)

/-- Text beyond ASCII is accepted as a value and then not found. -/
theorem set_text_unfound :
    ¬ ∀ (fields : Fields) (spelling text : String), SpellsName spelling → IsLegalValue text →
      (fields.setText spelling text).find spelling = some text := by
  intro always
  have spells : SpellsName "x-a" := by decide
  have legal : IsLegalValue "é" := (isLegalValue_iff _).2 (by decide)
  obtain ⟨name, named⟩ := Option.isSome_iff_exists.1 (parse?_isSome_iff.2 spells)
  have foreign : ¬ ∀ character ∈ "é".toList, character.toNat < 128 :=
    fun ascii => absurd (ascii 'é' (by decide)) (by decide)
  have found := always .empty "x-a" "é" spells legal
  rw [setText_of_parse? named,
    (setValue_law named legal).1.unfound foreign "x-a" (by decide)] at found
  cases found

end WebHost
