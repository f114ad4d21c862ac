/-
Module: WebHost.Proofs.Header.Lines
Purpose: Which lines state a field of a header, and what is read back of fields that
  were written as lines.
Main exports:
  StatesField, splitLine?_eq_some_iff, Fields.addLine, Fields.Replaced, FieldName.writeLine,
  addLine?_writeLine, header_lines_state_fields
-/
import WebHost.Proofs.Header.Finding
import WebHost.Proofs.Text.Pieces

namespace WebHost

open Text

/-!
A line is taken only when all of it is right: it has a separator, what stands before the
first one is a name, and what stands after that is a legal value which is not empty.  No
name holds a colon and no value holds the end of a line, so a field that is written as a
line is read as that field, whatever its value holds.
-/

/-! ### Lines and what they state -/

/-- A line states a name and a text: less the CR and LF characters at its end, it is the
name, a colon with a space, and the text, and no colon with a space stands before. -/
def StatesField (line name text : String) : Prop :=
  ∃ content ending, line.toList = content ++ ending ∧
    (∀ character ∈ ending, character = '\r' ∨ character = '\n') ∧
    (∀ last, content.getLast? = some last → last ≠ '\r' ∧ last ≠ '\n') ∧
    CutsFirst [':', ' '] content name.toList text.toList

namespace Fields

theorem splitLine?_eq_some_iff {line name text : String} :
    splitLine? line = some (name, text) ↔ StatesField line name text := by
  have ends : ∀ character : Char,
      (character == '\r' || character == '\n') = true ↔ character = '\r' ∨ character = '\n' := by
    simp
  have stays : ∀ character : Char,
      (character == '\r' || character == '\n') = false ↔ character ≠ '\r' ∧ character ≠ '\n' := by
    simp
  have texts : ∀ parts : List Char × List Char,
      (String.ofList parts.1, String.ofList parts.2) = (name, text) ↔
        parts = (name.toList, text.toList) := by
    rintro ⟨front, back⟩
    rw [Prod.mk.injEq, Prod.mk.injEq, String.ofList_eq, String.ofList_eq]
  unfold splitLine? StatesField
  simp only [Option.map_eq_some_iff, texts, exists_eq_right, cutAtText_eq_some_iff (by simp :
    [':', ' '] ≠ [])]
  constructor
  · intro cuts
    obtain ⟨ending, whole, trailing, last⟩ := trimEndWhile_eq_iff.1 rfl
    exact ⟨_, ending, whole, fun item member => (ends item).1 (trailing item member),
      fun item found => (stays item).1 (last item found), cuts⟩
  · rintro ⟨content, ending, whole, trailing, last, cuts⟩
    have trimmed := trimEndWhile_eq_iff.2 ⟨ending, whole,
      fun item member => (ends item).2 (trailing item member),
      fun item found => (stays item).2 (last item found)⟩
    rwa [trimmed]

/-- Whether a line is taken, and the header afterwards. -/
def addLine (fields : Fields) (line : String) : Bool × Fields :=
  ((fields.addLine? line).isSome, (fields.addLine? line).getD fields)

/-- In a header a name has lost all its values to one, which holds a text; all other
names have kept theirs. -/
def Replaced (before after : Fields) (spelling text : String) : Prop :=
  ∃ name value, FieldName.parse? spelling = some name ∧ value.bytes = encode text ∧
    ∀ other, after.values other = if name = other then [value] else before.values other

/-- A line can be taken: the name that it states is one, and the text is a legal value that
is not empty. -/
structure Takes (line name text : String) : Prop where
  states : StatesField line name text
  spells : SpellsName name
  filled : text ≠ ""
  legal : IsLegalValue text

section Adding

variable {fields after : Fields} {line : String}

theorem addLine?_eq_some_iff :
    fields.addLine? line = some after ↔ ∃ spelling text name value,
      StatesField line spelling text ∧ FieldName.parse? spelling = some name ∧ text ≠ "" ∧
        FieldValue.ofText? text = some value ∧ after = fields.set name value := by
  unfold addLine?
  simp only [bind, Option.bind_eq_some_iff, Prod.exists, splitLine?_eq_some_iff,
    Option.ite_none_left_eq_some, Option.some.injEq]
  constructor
  · rintro ⟨spelling, text, states, name, named, filled, value, legal, rfl⟩
    exact ⟨spelling, text, name, value, states, named, filled, legal, rfl⟩
  · rintro ⟨spelling, text, name, value, states, named, filled, legal, rfl⟩
    exact ⟨spelling, text, states, name, named, filled, value, legal, rfl⟩

/-- What was set to a value that holds a text was replaced by it. -/
theorem replaced_set {spelling text : String} {name : FieldName} {value : FieldValue}
    (named : FieldName.parse? spelling = some name)
    (legal : FieldValue.ofText? text = some value) :
    fields.Replaced (fields.set name value) spelling text :=
  ⟨name, value, named, bytes_of_ofText? legal, fun other => values_set fields name other value⟩

/-- A line that can be taken is taken, and no other. -/
theorem addLine_fst_iff :
    (fields.addLine line).1 = true ↔ ∃ name text, Takes line name text := by
  show (fields.addLine? line).isSome = true ↔ _
  rw [Option.isSome_iff_exists]
  constructor
  · rintro ⟨after, taken⟩
    obtain ⟨spelling, text, name, value, states, named, filled, legal, -⟩ :=
      addLine?_eq_some_iff.1 taken
    have spells : SpellsName spelling := parse?_isSome_iff.1 (by rw [named]; rfl)
    exact ⟨spelling, text, states, spells, filled, by rw [IsLegalValue, legal]; rfl⟩
  · rintro ⟨spelling, text, states, spells, filled, legal⟩
    obtain ⟨name, named⟩ := Option.isSome_iff_exists.1 (parse?_isSome_iff.2 spells)
    obtain ⟨value, legal⟩ := Option.isSome_iff_exists.1 legal
    exact ⟨_, addLine?_eq_some_iff.2
      ⟨spelling, text, name, value, states, named, filled, legal, rfl⟩⟩

/-- What a line that is taken states is all that the header has under the name. -/
theorem replaced_of_takes {spelling text : String} (takes : Takes line spelling text) :
    fields.Replaced (fields.addLine line).2 spelling text := by
  obtain ⟨name, named⟩ := Option.isSome_iff_exists.1 (parse?_isSome_iff.2 takes.spells)
  obtain ⟨value, legal⟩ := Option.isSome_iff_exists.1 takes.legal
  have taken : fields.addLine? line = some (fields.set name value) := addLine?_eq_some_iff.2
    ⟨spelling, text, name, value, takes.states, named, takes.filled, legal, rfl⟩
  rw [addLine, taken]
  exact replaced_set named legal

/-- A line that is refused leaves the header as it was. -/
theorem addLine_snd_of_refused (refused : (fields.addLine line).1 = false) :
    (fields.addLine line).2 = fields := by
  have untaken : fields.addLine? line = none := Option.isNone_iff_eq_none.1
    (Option.isSome_eq_false_iff.1 refused)
  rw [addLine, untaken]
  rfl

end Adding

end Fields

/-! ### Fields written as lines -/

/-- The line that writes a field. -/
def FieldName.writeLine (name : FieldName) (value : FieldValue) : String :=
  name.text ++ ": " ++ decodeLossy value.bytes ++ "\r\n"

/-- The values of a header can be written as lines: each name has one, which encodes a
text and is not empty. -/
structure Fields.Writable (fields : Fields) : Prop where
  single : (fields.entries.map (·.1)).Nodup
  filled : ∀ entry ∈ fields.entries, entry.2.bytes ≠ []
  encoded : ∀ entry ∈ fields.entries, ∃ text, entry.2.bytes = encode text

theorem colon_not_mem_name (name : FieldName) : ':' ∉ name.text.toList := by
  intro member
  have legal := name.legal
  simp only [isFieldName, isToken, Bool.and_eq_true, List.all_eq_true] at legal
  exact absurd (legal.1.1.2 ':' member) (by decide)

section Writing

variable {name : FieldName} {value : FieldValue} {text : String}

/-- A value has no end of a line in it. -/
theorem not_mem_of_lineEnd (held : value.bytes = encode text) {character : Char}
    (member : character ∈ text.toList) : character ≠ '\r' ∧ character ≠ '\n' := by
  have visible : character.toNat < 128 → IsVisible character :=
    isVisible_of_legal (ofText?_eq_some_iff.2 held) member
  constructor <;> rintro rfl <;> exact absurd (visible (by decide)) (by decide)

theorem statesField_writeLine (held : value.bytes = encode text) (filled : text ≠ "") :
    StatesField (name.writeLine value) name.text text := by
  refine ⟨name.text.toList ++ [':', ' '] ++ text.toList, ['\r', '\n'], ?_, by simp, ?_,
    cutsFirst_of_not_mem (colon_not_mem_name name) text.toList⟩
  · simp [FieldName.writeLine, held, decodeLossy_encode]
  · intro last found
    apply not_mem_of_lineEnd held
    rw [List.getLast?_append_of_ne_nil _ (by simpa using filled)] at found
    exact List.mem_of_getLast? found

theorem addLine?_writeLine (fields : Fields) (held : value.bytes = encode text)
    (filled : text ≠ "") :
    fields.addLine? (name.writeLine value) = some (fields.set name value) :=
  Fields.addLine?_eq_some_iff.2 ⟨name.text, text, name, value,
    statesField_writeLine held filled, parse?_text name, filled, ofText?_eq_some_iff.2 held, rfl⟩

end Writing

/-- Fields of new names, written as lines, are added one after the other. -/
theorem addLines_writeLines (fields : Fields) {entries : List (FieldName × FieldValue)}
    (new : ∀ entry ∈ entries, ∀ old ∈ fields.entries, old.1 ≠ entry.1)
    (writable : Fields.Writable { entries := entries }) :
    (entries.map fun entry => entry.1.writeLine entry.2).foldlM Fields.addLine? fields =
      some { entries := fields.entries ++ entries } := by
  induction entries generalizing fields with
  | nil => simp
  | cons entry rest ih =>
      obtain ⟨name, value⟩ := entry
      obtain ⟨here, there⟩ := List.forall_mem_cons.1 new
      obtain ⟨fresh, single⟩ := List.nodup_cons.1 writable.single
      obtain ⟨text, held⟩ := writable.encoded _ List.mem_cons_self
      have filled : text ≠ "" := by
        rintro rfl
        exact writable.filled _ List.mem_cons_self held
      have kept : fields.entries.filter (·.1 ≠ name) = fields.entries := by
        apply List.filter_eq_self.2
        exact fun old member => decide_eq_true (here old member)
      have added : fields.set name value = { entries := fields.entries ++ [(name, value)] } := by
        rw [Fields.set, Fields.erase, kept, Fields.append]
      rw [List.map_cons, List.foldlM_cons, addLine?_writeLine fields held filled, added]
      have later : ∀ entry ∈ rest, ∀ old ∈ fields.entries ++ [(name, value)], old.1 ≠ entry.1 := by
        intro entry member old among
        rcases List.mem_append.1 among with before | last
        · exact there entry member old before
        · rw [List.mem_singleton.1 last]
          rintro rfl
          exact fresh (List.mem_map.2 ⟨entry, member, rfl⟩)
      have others : Fields.Writable { entries := rest } :=
        ⟨single, fun entry member => writable.filled entry (List.mem_cons_of_mem _ member),
          fun entry member => writable.encoded entry (List.mem_cons_of_mem _ member)⟩
      refine (ih { entries := fields.entries ++ [(name, value)] } later others).trans ?_
      simp

/-- Under distinct names the order of the fields says nothing. -/
theorem values_of_perm {before after : Fields} (same : after.entries.Perm before.entries)
    (single : (before.entries.map (·.1)).Nodup) (name : FieldName) :
    after.values name = before.values name := by
  have perm : (after.values name).Perm (before.values name) := (same.filter _).map _
  have few : (before.values name).length ≤ 1 := by
    have counted : (before.values name).length = (before.entries.map (·.1)).count name := by
      rw [Fields.values, List.length_map, List.count_eq_countP, List.countP_map,
        List.countP_eq_length_filter]
      rfl
    rw [counted]
    exact List.nodup_iff_count_le_one.1 single name
  cases kept : before.values name with
  | nil =>
      rw [kept] at perm
      exact perm.eq_nil
  | cons value rest =>
      rw [kept] at perm few
      obtain rfl : rest = [] := List.eq_nil_of_length_eq_zero (by simpa using few)
      exact List.perm_singleton.1 perm

/-- A line is taken just if, less the CR and LF characters at its end, it is a name, a
colon with a space, the first there is, and a legal value that is not empty.  Then the
name has this value and no other, while a line that is refused changes nothing.  So a
header with one value for each name, which encodes a text and is not empty, is read back
from its lines in any order. -/
theorem header_lines_state_fields (fields : Fields) :
    (∀ line,
      ((fields.addLine line).1 = true ↔ ∃ name text, Fields.Takes line name text) ∧
      (∀ name text, Fields.Takes line name text →
        fields.Replaced (fields.addLine line).2 name text) ∧
      ((fields.addLine line).1 = false → (fields.addLine line).2 = fields)) ∧
    (fields.Writable → ∀ order : List (FieldName × FieldValue), order.Perm fields.entries →
      ∃ rebuilt, (order.map fun entry => entry.1.writeLine entry.2).foldlM Fields.addLine?
          Fields.empty = some rebuilt ∧
        rebuilt.entries.Perm fields.entries ∧
        ∀ name, rebuilt.values name = fields.values name) := by
  constructor
  · exact fun line => ⟨Fields.addLine_fst_iff, fun name text => Fields.replaced_of_takes,
      Fields.addLine_snd_of_refused⟩
  · intro writable order perm
    have ordered : Fields.Writable { entries := order } :=
      ⟨(perm.map _).nodup_iff.2 writable.single,
        fun entry member => writable.filled entry (perm.mem_iff.1 member),
        fun entry member => writable.encoded entry (perm.mem_iff.1 member)⟩
    have read := addLines_writeLines Fields.empty (fun _ _ _ old => nomatch old) ordered
    exact ⟨{ entries := order }, read, perm, values_of_perm perm writable.single⟩

/-- A value with a colon and a space in it, and one that ends in a space, are read back
from lines in the other order; and a line takes the place of what its name had. -/
theorem header_lines_state_fields_swapped :
    let fields : Fields :=
      { entries := [(.server, .ofTexts ["web: é"]), (.accept, .ofTexts ["*/* "])] }
    let order := [(FieldName.accept, FieldValue.ofTexts ["*/* "]),
      (FieldName.server, FieldValue.ofTexts ["web: é"])]
    Fields.Takes "ACCEPT: a: b \n\r" "ACCEPT" "a: b " ∧
      fields.Replaced (fields.addLine "ACCEPT: a: b \n\r").2 "ACCEPT" "a: b " ∧
      fields.Writable ∧ order.Perm fields.entries ∧
      ∃ rebuilt, (order.map fun entry => entry.1.writeLine entry.2).foldlM Fields.addLine?
          Fields.empty = some rebuilt ∧ ∀ name, rebuilt.values name = fields.values name := by
  intro fields order
  have takes : Fields.Takes "ACCEPT: a: b \n\r" "ACCEPT" "a: b " :=
    ⟨Fields.splitLine?_eq_some_iff.1 (by decide), by decide, by decide,
      (isLegalValue_iff _).2 (by decide)⟩
  have writable : fields.Writable := by
    refine ⟨by decide, by decide, ?_⟩
    intro entry member
    rcases List.mem_cons.1 member with rfl | member
    · exact ⟨"web: é", by decide⟩
    · rw [List.mem_singleton.1 member]
      exact ⟨"*/* ", by decide⟩
  have perm : order.Perm fields.entries := List.Perm.swap _ _ []
  obtain ⟨lines, written⟩ := header_lines_state_fields fields
  obtain ⟨rebuilt, read, -, same⟩ := written writable order perm
  exact ⟨takes, (lines _).2.1 _ _ takes, writable, perm, rebuilt, read, same⟩

end WebHost
