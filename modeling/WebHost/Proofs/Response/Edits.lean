/-
Module: WebHost.Proofs.Response.Edits
Purpose: What a run of edits leaves in the header of a response for a name.
Main exports:
  Edit.touch?, Edit.leaves, values_apply, Settles, settles_applyAll
-/
import WebHost.Proofs.Header.Values
import WebHost.Response

namespace WebHost

open Text

/-!
Content, redirects and statuses touch no field but the content type and the
location.  Any other field is touched only by an edit that names it, which gives
it one value or takes away all it has.  So the last such edit decides what is
left of the field, and what the response started with counts only if there is
none.
-/

/-! ### One edit -/

/-- What an edit does to a field that no content depends on: it gives it a value
(`some (some value)`), takes its values away (`some none`) or leaves it alone. -/
def Edit.touch? (name : FieldName) : Edit → Option (Option FieldValue)
  | .header spelling text =>
      match FieldName.parse? spelling, FieldValue.ofText? text with
      | some named, some value => if named = name then some (some value) else none
      | _, _ => none
  | .remove spelling => if FieldName.parse? spelling = some name then some none else none
  | _ => none

/-- No content and no redirect touches the field. -/
def IsFree (name : FieldName) : Prop := name ≠ .contentType ∧ name ≠ .location

/-- A content type that is no legal value fails, and is not set either. -/
theorem Edit.apply_contentType (table : MimeTable) (response : Response) (contentType : String) :
    (Edit.contentType contentType).apply table response = response.setContentType contentType := by
  have applied : (Edit.contentType contentType).apply table response =
      ((FieldValue.ofText? contentType).map fun _ =>
        response.setContentType contentType).getD response := rfl
  rw [applied]
  cases legal : FieldValue.ofText? contentType with
  | none =>
      rw [Response.setContentType, setValue_of_illegal legal]
      rfl
  | some value => rfl

/-- A header with a name or a value that is not legal fails, and is not set either. -/
theorem Edit.apply_header (table : MimeTable) (response : Response) (spelling text : String) :
    (Edit.header spelling text).apply table response = response.setHeader spelling text := by
  have applied : (Edit.header spelling text).apply table response =
      (match FieldName.parse? spelling, FieldValue.ofText? text with
        | some _, some _ => some (response.setHeader spelling text)
        | _, _ => none).getD response := rfl
  rw [applied, Response.setHeader]
  -- By `delta`: to state its equations, Lean would first try to parse the name.
  delta Fields.setText
  cases FieldName.parse? spelling with
  | none => rfl
  | some named =>
      cases legal : FieldValue.ofText? text with
      | none =>
          dsimp only
          rw [setValue_of_illegal legal]
          rfl
      | some value => rfl

/-- A header that is set gets the field that its texts spell, if they spell one. -/
theorem values_setHeader (response : Response) (spelling text : String) (name : FieldName) :
    (response.setHeader spelling text).fields.values name =
      match (Edit.header spelling text).touch? name with
      | some left => left.toList
      | none => response.fields.values name := by
  have touched : (Edit.header spelling text).touch? name =
      match FieldName.parse? spelling, FieldValue.ofText? text with
      | some named, some value => if named = name then some (some value) else none
      | _, _ => none := rfl
  rw [touched, Response.setHeader]
  delta Fields.setText
  cases FieldName.parse? spelling with
  | none => rfl
  | some named =>
      cases legal : FieldValue.ofText? text with
      | none => exact congrArg (Fields.values · name) (setValue_of_illegal legal _ _)
      | some value =>
          by_cases same : named = name
          · simp only [values_setValue legal, same, if_true]
            rfl
          · simp only [values_setValue legal, same, if_false]

/-- A header that is removed loses the field that its text spells, if it spells
one. -/
theorem values_removeHeader (response : Response) (spelling : String) (name : FieldName) :
    (response.removeHeader spelling).fields.values name =
      match (Edit.remove spelling).touch? name with
      | some left => left.toList
      | none => response.fields.values name := by
  have touched : (Edit.remove spelling).touch? name =
      if FieldName.parse? spelling = some name then some none else none := rfl
  rw [touched, Response.removeHeader]
  delta Fields.eraseText
  cases FieldName.parse? spelling with
  | none => rfl
  | some named =>
      by_cases same : named = name
      · simp only [Fields.values_erase, same, if_true]
        rfl
      · simp only [Fields.values_erase, same, Option.some.injEq, if_false]

section OneEdit

variable {name : FieldName} (response : Response)

theorem values_setContentType (apart : name ≠ .contentType) (contentType : String) :
    (response.setContentType contentType).fields.values name = response.fields.values name :=
  values_setValue_of_ne response.fields apart.symm contentType

theorem values_setDefaultContentType (apart : name ≠ .contentType) (contentType : String) :
    (response.setDefaultContentType contentType).fields.values name =
      response.fields.values name := by
  unfold Response.setDefaultContentType
  split
  · rfl
  · exact values_setContentType response apart contentType

/-- An edit that touches the field decides what its values are, and any other
leaves them. -/
theorem values_apply (free : IsFree name) (table : MimeTable) (edit : Edit) :
    (edit.apply table response).fields.values name =
      match edit.touch? name with
      | some left => left.toList
      | none => response.fields.values name := by
  cases edit with
  | plain text => exact values_setDefaultContentType response free.1 textPlain
  | json value =>
      cases value with
      | none => rfl
      | some value => exact values_setDefaultContentType response free.1 applicationJson
  | bytes content => exact values_setDefaultContentType response free.1 octetStream
  | content content => rfl
  | status status => rfl
  | contentType contentType =>
      rw [Edit.apply_contentType]
      exact values_setContentType response free.1 contentType
  | extension extension => exact values_setContentType response free.1 (table.get extension)
  | header spelling text =>
      rw [Edit.apply_header]
      exact values_setHeader response spelling text name
  | remove spelling => exact values_removeHeader response spelling name
  | redirect location status =>
      show ((response.fields.setValue .location location).setValue .contentType
        textHtml).values name = _
      rw [values_setValue_of_ne _ (Ne.symm free.1), values_setValue_of_ne _ (Ne.symm free.2)]
      rfl
  | noContent status => exact values_setValue_of_ne _ (Ne.symm free.1) textHtml

end OneEdit

/-! ### A run of edits -/

/-- The value that a run of edits leaves for a name: the one that the last edit
of the field set, and none if that took the field away or if there is none. -/
def Edit.leaves (name : FieldName) (edits : List Edit) : Option FieldValue :=
  edits.foldl (fun left edit => (edit.touch? name).getD left) none

/-- A header is settled on what was left for a name: it has this value, and where
nothing was left it has the standard value or none. -/
def Settles (fields : Fields) (name : FieldName) (standard : FieldValue)
    (left : Option FieldValue) : Prop :=
  fields.values name = [left.getD standard] ∨ (left = none ∧ fields.values name = [])

section Runs

variable {name : FieldName} (free : IsFree name) (table : MimeTable) {standard : FieldValue}

include free

theorem settles_apply (edit : Edit) {response : Response} {left : Option FieldValue}
    (settles : Settles response.fields name standard left) :
    Settles (edit.apply table response).fields name standard ((edit.touch? name).getD left) := by
  have values := values_apply response free table edit
  cases touched : edit.touch? name with
  | none =>
      rw [touched] at values
      rw [Settles, values]
      exact settles
  | some change =>
      rw [touched] at values
      rw [Settles, values]
      cases change with
      | none => exact Or.inr ⟨rfl, rfl⟩
      | some value => exact Or.inl rfl

/-- A header that starts with the standard value, or without any, is settled
after a run of edits on what they leave. -/
theorem settles_applyAll (edits : List Edit) {response : Response}
    (start : Settles response.fields name standard none) :
    Settles (Edit.applyAll table edits response).fields name standard
      (Edit.leaves name edits) := by
  unfold Edit.leaves Edit.applyAll
  generalize none = left at start
  induction edits generalizing response left with
  | nil => exact start
  | cons edit rest ih => exact ih _ (settles_apply free table edit start)

end Runs

/-- The standard value is all that a settled header can lack. -/
theorem values_setIfAbsent_of_settles {fields : Fields} {name : FieldName} {standard : FieldValue}
    {left : Option FieldValue} (settles : Settles fields name standard left) :
    (fields.setIfAbsent name standard).values name = [left.getD standard] := by
  unfold Fields.setIfAbsent Fields.contains Fields.get?
  rcases settles with held | ⟨rfl, missing⟩
  · simp [held]
  · simp [missing]

end WebHost
