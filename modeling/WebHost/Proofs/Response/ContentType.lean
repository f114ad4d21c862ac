/-
Module: WebHost.Proofs.Response.ContentType
Purpose: The content type that a response has after its content is written.
Main exports:
  Edit.Writes, Edit.defaultType?, values_writes, explicit_type_kept_iff_ascii
-/
import WebHost.Proofs.Header.Values
import WebHost.Response

namespace WebHost

open Text

/-!
Writing content asks for a content type, and gets it unless one can be read from
the header.  So the first content type stays, whether it was set on purpose or
by a write, as long as it can be read.  A content type beyond ASCII is a legal
value that cannot be read, and the next write replaces it.
-/

/-! ### Writes -/

namespace Edit

/-- The edit writes content or sets the status. -/
inductive Writes : Edit → Prop where
  | plain (text : String) : Writes (.plain text)
  | json (value : Option Json) : Writes (.json value)
  | bytes (content : Bytes) : Writes (.bytes content)
  | content (content : Bytes) : Writes (.content content)
  | status (status : Status) : Writes (.status status)

/-- The content type that a write asks for, if it does.  JSON that cannot be
written asks for none. -/
def defaultType? : Edit → Option String
  | .plain _ => some textPlain
  | .json (some _) => some applicationJson
  | .bytes _ => some octetStream
  | _ => none

/-- Content types that are asked for are legal, and can be read. -/
theorem exists_value_of_defaultType? {edit : Edit} {contentType : String}
    (asked : edit.defaultType? = some contentType) :
    ∃ value, FieldValue.ofText? contentType = some value ∧ value.text? = some contentType := by
  have visible : ∀ c ∈ contentType.toList, IsVisible c := by
    apply isVisible_of_all
    unfold defaultType? at asked
    split at asked <;> cases asked <;> decide
  exact ofText?_of_visible visible

/-- A write changes the header by the content type it asks for, and no further. -/
theorem fields_apply_of_writes (table : MimeTable) {edit : Edit} (writes : edit.Writes)
    (response : Response) :
    (edit.apply table response).fields =
      match edit.defaultType? with
      | some asked => (response.setDefaultContentType asked).fields
      | none => response.fields := by
  cases writes with
  | plain text => rfl
  | json value => cases value <;> rfl
  | bytes content => rfl
  | content content => rfl
  | status status => rfl

end Edit

/-! ### One write and many -/

/-- Some content type can be read from the header. -/
def Response.HasReadableType (response : Response) : Prop :=
  (response.fields.text? .contentType).isSome = true

/-- The values of the content type. -/
def Response.contentTypes (response : Response) : List FieldValue :=
  response.fields.values .contentType

theorem hasReadableType_iff (response : Response) :
    response.HasReadableType ↔
      ((response.contentTypes.head?).bind FieldValue.text?).isSome = true := Iff.rfl

section Writing

variable {table : MimeTable} {edit : Edit} {response : Response}

theorem setDefaultContentType_of_readable (readable : response.HasReadableType)
    (contentType : String) : response.setDefaultContentType contentType = response :=
  if_pos readable

theorem contentTypes_setDefaultContentType (unread : ¬ response.HasReadableType)
    {contentType : String} {value : FieldValue}
    (legal : FieldValue.ofText? contentType = some value) :
    (response.setDefaultContentType contentType).contentTypes = [value] := by
  have set : response.setDefaultContentType contentType = response.setContentType contentType :=
    if_neg unread
  rw [set]
  exact values_setValue legal response.fields .contentType .contentType

/-- A write that asks for no content type leaves the header alone. -/
theorem fields_apply_of_silent (writes : edit.Writes) (silent : edit.defaultType? = none) :
    (edit.apply table response).fields = response.fields := by
  rw [Edit.fields_apply_of_writes table writes, silent]

/-- A content type that can be read stays. -/
theorem fields_apply_of_readable (writes : edit.Writes) (readable : response.HasReadableType) :
    (edit.apply table response).fields = response.fields := by
  rw [Edit.fields_apply_of_writes table writes]
  split
  · rw [setDefaultContentType_of_readable readable]
  · rfl

/-- Any other makes way for the one that a write asks for. -/
theorem contentTypes_apply_of_unread (writes : edit.Writes) (unread : ¬ response.HasReadableType)
    {contentType : String} (asked : edit.defaultType? = some contentType) {value : FieldValue}
    (legal : FieldValue.ofText? contentType = some value) :
    (edit.apply table response).contentTypes = [value] := by
  unfold Response.contentTypes
  rw [Edit.fields_apply_of_writes table writes, asked]
  exact contentTypes_setDefaultContentType unread legal

variable {edits : List Edit}

/-- Writes that ask for no content type leave the header alone. -/
theorem fields_writes_of_silent (writes : ∀ edit ∈ edits, edit.Writes)
    (silent : edits.findSome? Edit.defaultType? = none) :
    (Edit.applyAll table edits response).fields = response.fields := by
  induction edits generalizing response with
  | nil => rfl
  | cons edit rest ih =>
      obtain ⟨here, there⟩ := List.forall_mem_cons.1 writes
      rw [List.findSome?_eq_none_iff, List.forall_mem_cons, ← List.findSome?_eq_none_iff] at silent
      exact (ih there silent.2).trans (fields_apply_of_silent here silent.1)

/-- A content type that can be read outlasts any number of writes. -/
theorem fields_writes_of_readable (writes : ∀ edit ∈ edits, edit.Writes)
    (readable : response.HasReadableType) :
    (Edit.applyAll table edits response).fields = response.fields := by
  induction edits generalizing response with
  | nil => rfl
  | cons edit rest ih =>
      obtain ⟨here, there⟩ := List.forall_mem_cons.1 writes
      have kept : (edit.apply table response).fields = response.fields :=
        fields_apply_of_readable here readable
      have still : (edit.apply table response).HasReadableType := by
        rw [Response.HasReadableType, kept]
        exact readable
      exact (ih there still).trans kept

/-- Without one, the first content type that is asked for is taken, and stays. -/
theorem contentTypes_writes_of_unread (writes : ∀ edit ∈ edits, edit.Writes)
    (unread : ¬ response.HasReadableType) {contentType : String}
    (first : edits.findSome? Edit.defaultType? = some contentType) :
    ∃ value, FieldValue.ofText? contentType = some value ∧
      value.text? = some contentType ∧
      (Edit.applyAll table edits response).contentTypes = [value] := by
  induction edits generalizing response with
  | nil => cases first
  | cons edit rest ih =>
      obtain ⟨here, there⟩ := List.forall_mem_cons.1 writes
      rw [List.findSome?_cons] at first
      cases asked : edit.defaultType? with
      | none =>
          rw [asked] at first
          have still : ¬ (edit.apply table response).HasReadableType := by
            rw [Response.HasReadableType, fields_apply_of_silent here asked]
            exact unread
          exact ih there still first
      | some taken =>
          rw [asked] at first
          cases first
          obtain ⟨value, legal, shown⟩ := Edit.exists_value_of_defaultType? asked
          have only : (edit.apply table response).contentTypes = [value] :=
            contentTypes_apply_of_unread here unread asked legal
          have readable : (edit.apply table response).HasReadableType := by
            rw [hasReadableType_iff, only]
            simp [shown]
          have kept : (Edit.applyAll table rest (edit.apply table response)).fields =
              (edit.apply table response).fields := fields_writes_of_readable there readable
          exact ⟨value, legal, shown, (congrArg (Fields.values · .contentType) kept).trans only⟩

end Writing

/-! ### Content types that are set on purpose -/

/-- The reply has the content types of its response. -/
theorem contentTypes_reply (response : Response) :
    response.reply.fields.values .contentType = response.contentTypes := by
  have apart : FieldName.contentLength ≠ .contentType := by decide
  exact (Fields.values_set response.fields .contentLength .contentType _).trans (if_neg apart)

theorem contentTypes_setContentType {contentType : String} {value : FieldValue}
    (legal : FieldValue.ofText? contentType = some value) (response : Response) :
    (response.setContentType contentType).contentTypes = [value] :=
  values_setValue legal response.fields .contentType .contentType

/-- A text is the one content type of a response, and of the reply made of it. -/
def Response.HasOneType (response : Response) (contentType : String) : Prop :=
  ∃ value, FieldValue.ofText? contentType = some value ∧ response.contentTypes = [value] ∧
    response.reply.fields.values .contentType = [value]

theorem hasOneType_of_contentTypes {response : Response} {contentType : String}
    {value : FieldValue} (legal : FieldValue.ofText? contentType = some value)
    (only : response.contentTypes = [value]) : response.HasOneType contentType :=
  ⟨value, legal, only, (contentTypes_reply response).trans only⟩

/-- A response with one content type can be read if that is ASCII. -/
theorem hasReadableType_iff_ascii {response : Response} {contentType : String}
    (one : response.HasOneType contentType) :
    response.HasReadableType ↔ ∀ character ∈ contentType.toList, character.toNat < 128 := by
  obtain ⟨value, legal, only, -⟩ := one
  rw [hasReadableType_iff, only, ← text?_isSome_iff_ascii legal]
  rfl

theorem hasOneType_of_fields {response other : Response} {contentType : String}
    (one : response.HasOneType contentType) (same : other.fields = response.fields) :
    other.HasOneType contentType := by
  obtain ⟨value, legal, only, -⟩ := one
  refine hasOneType_of_contentTypes legal ?_
  rw [Response.contentTypes, same]
  exact only

section Explicit

variable (table : MimeTable) {response : Response} {edits : List Edit}
  (writes : ∀ edit ∈ edits, edit.Writes)

include writes

/-- A content type that can be read stays the only one. -/
theorem hasOneType_of_ascii {contentType : String} (one : response.HasOneType contentType)
    (ascii : ∀ character ∈ contentType.toList, character.toNat < 128) :
    (Edit.applyAll table edits response).HasOneType contentType :=
  hasOneType_of_fields one
    (fields_writes_of_readable writes ((hasReadableType_iff_ascii one).2 ascii))

theorem hasOneType_of_asked (unread : ¬ response.HasReadableType) {contentType : String}
    (first : edits.findSome? Edit.defaultType? = some contentType) :
    (Edit.applyAll table edits response).HasOneType contentType ∧
      (Edit.applyAll table edits response).HasReadableType := by
  obtain ⟨value, legal, shown, only⟩ := contentTypes_writes_of_unread writes unread first
  refine ⟨hasOneType_of_contentTypes legal only, ?_⟩
  rw [hasReadableType_iff, only]
  simp [shown]

end Explicit

/-- A content type that was set on purpose is the only one after any writes if
it is ASCII; if it is not, then only as long as no write asks for another, and
the first that does gets the one it asks for.  Where no content type was set,
the first that a write asks for is the only one from then on. -/
theorem explicit_type_kept_iff_ascii (table : MimeTable) (response : Response)
    (edits : List Edit) (writes : ∀ edit ∈ edits, edit.Writes) :
    (∀ contentType, (FieldValue.ofText? contentType).isSome = true →
      let final := Edit.applyAll table edits (response.setContentType contentType)
      (final.HasOneType contentType ↔
        (∀ character ∈ contentType.toList, character.toNat < 128) ∨
          edits.findSome? Edit.defaultType? = none) ∧
      ∀ default, edits.findSome? Edit.defaultType? = some default →
        ¬ (∀ character ∈ contentType.toList, character.toNat < 128) → final.HasOneType default) ∧
    (response.contentTypes = [] →
      let final := Edit.applyAll table edits response
      (edits.findSome? Edit.defaultType? = none →
        final.contentTypes = [] ∧ final.reply.fields.values .contentType = []) ∧
      ∀ default, edits.findSome? Edit.defaultType? = some default →
        final.HasOneType default) := by
  constructor
  · intro contentType legal final
    obtain ⟨value, legal⟩ := Option.isSome_iff_exists.1 legal
    have one : (response.setContentType contentType).HasOneType contentType :=
      hasOneType_of_contentTypes legal (contentTypes_setContentType legal response)
    have readable := hasReadableType_iff_ascii one
    refine ⟨⟨?_, ?_⟩, ?_⟩
    · intro kept
      cases first : edits.findSome? Edit.defaultType? with
      | none => exact Or.inr rfl
      | some default =>
          left
          apply Classical.byContradiction
          intro foreign
          -- What took its place can be read, and so it would be ASCII after all.
          have taken := (hasOneType_of_asked table writes (mt readable.1 foreign) first).2
          exact foreign ((hasReadableType_iff_ascii kept).1 taken)
    · rintro (ascii | silent)
      · exact hasOneType_of_ascii table writes one ascii
      · exact hasOneType_of_fields one (fields_writes_of_silent writes silent)
    · intro default first foreign
      exact (hasOneType_of_asked table writes (mt readable.1 foreign) first).1
  · intro unset final
    have unread : ¬ response.HasReadableType := by
      rw [hasReadableType_iff, unset]
      exact Bool.false_ne_true
    refine ⟨?_, fun default first => (hasOneType_of_asked table writes unread first).1⟩
    intro silent
    have still : final.contentTypes = [] :=
      (congrArg (Fields.values · .contentType) (fields_writes_of_silent writes silent)).trans unset
    exact ⟨still, (contentTypes_reply final).trans still⟩

/-- After `text/html` was set, plain text is still HTML; where nothing was set,
plain text stays plain when JSON follows. -/
theorem explicit_type_kept_iff_ascii_html :
    (Edit.applyAll .standard [.plain "<p>hi</p>", .status .notFound, .json none]
        (Response.initial.setContentType textHtml)).HasOneType textHtml ∧
      (Edit.applyAll .standard [.status .notFound, .plain "hi", .json (some (.text "hi"))]
        Response.initial).HasOneType textPlain := by
  have first : ∀ edit ∈ [Edit.plain "<p>hi</p>", .status .notFound, .json none], edit.Writes := by
    simp [Edit.Writes.plain, Edit.Writes.status, Edit.Writes.json]
  have second : ∀ edit ∈ [Edit.status .notFound, .plain "hi", .json (some (.text "hi"))],
      edit.Writes := by
    simp [Edit.Writes.plain, Edit.Writes.status, Edit.Writes.json]
  constructor
  · have kept := (explicit_type_kept_iff_ascii .standard .initial _ first).1 textHtml (by decide)
    have ascii : textHtml.toList.all (·.toNat < 128) = true := by decide
    exact kept.1.2 (Or.inl fun character member =>
      of_decide_eq_true (List.all_eq_true.1 ascii character member))
  · have taken := (explicit_type_kept_iff_ascii .standard .initial _ second).2 (by decide)
    exact taken.2 textPlain rfl

/-- A legal content type beyond ASCII gives way to that of plain text. -/
theorem explicit_type_lost :
    ¬ ∀ (table : MimeTable) (response : Response) (contentType : String) (edits : List Edit),
      (FieldValue.ofText? contentType).isSome = true → (∀ edit ∈ edits, edit.Writes) →
      (Edit.applyAll table edits (response.setContentType contentType)).HasOneType
        contentType := by
  intro always
  obtain ⟨value, legal, only, -⟩ := always .standard .initial "text/é" [.plain "hi"] (by decide)
    (by simp [Edit.Writes.plain])
  have bytes := bytes_of_ofText? legal
  have lost : (Edit.applyAll .standard [.plain "hi"]
      (Response.initial.setContentType "text/é")).contentTypes.map (·.bytes) =
        [encode textPlain] := by decide
  rw [only, List.map_singleton, bytes] at lost
  exact absurd (encode_injective (List.singleton_inj.1 lost)) (by decide)

end WebHost
