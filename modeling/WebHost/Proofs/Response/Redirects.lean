/-
Module: WebHost.Proofs.Response.Redirects
Purpose: Where a redirect points, and what becomes of one whose location is no legal value.
Main exports:
  Response.locations, Response.PointsTo, Edit.location?, locations_apply, locations_applyAll,
  redirect_points_iff_legal, redirect_points_elsewhere
-/
import WebHost.Proofs.Lists
import WebHost.Proofs.Response.Edits

namespace WebHost

open Text

/-!
A redirect sets the status and empties the content whether or not its location can be
set.  So it points to its location if that is a legal value of a field; if it is not, the
redirect points where the response pointed before, or nowhere.
-/

/-! ### Locations -/

/-- The values of the location. -/
def Response.locations (response : Response) : List FieldValue :=
  response.fields.values .location

/-- A response points to a location: that is the only value it has for it. -/
def Response.PointsTo (response : Response) (location : String) : Prop :=
  ∃ value, response.locations = [value] ∧ value.bytes = encode location

/-- The codes of the statuses that a redirect can have. -/
def redirectCodes : List Nat := [301, 302, 303, 304]

/-- What an edit leaves of the location, if it touches that: a redirect to a legal value
leaves the value, and so does a header that is set; a header that is removed leaves none. -/
def Edit.location? : Edit → Option (List FieldValue)
  | .redirect location _ => (FieldValue.ofText? location).map fun value => [value]
  | edit => (edit.touch? .location).map Option.toList

section Locations

variable (response : Response)

theorem locations_redirect (location : String) (status : Status) :
    (response.redirect location status).locations =
      (response.fields.setValue .location location).values .location :=
  values_setValue_of_ne _ (by decide) textHtml

theorem locations_redirect_of_legal {location : String} {value : FieldValue}
    (legal : FieldValue.ofText? location = some value) (status : Status) :
    (response.redirect location status).locations = [value] := by
  rw [locations_redirect, values_setValue legal, if_pos rfl]

theorem locations_redirect_of_illegal {location : String}
    (illegal : FieldValue.ofText? location = none) (status : Status) :
    (response.redirect location status).locations = response.locations := by
  rw [locations_redirect, setValue_of_illegal illegal]
  rfl

/-- An edit that touches the location decides on it, and any other leaves it. -/
theorem locations_apply (table : MimeTable) (edit : Edit) :
    (edit.apply table response).locations = edit.location?.getD response.locations := by
  have apart : FieldName.location ≠ .contentType := by decide
  cases edit with
  | plain text => exact values_setDefaultContentType response apart textPlain
  | json value =>
      cases value with
      | none => rfl
      | some value => exact values_setDefaultContentType response apart applicationJson
  | bytes content => exact values_setDefaultContentType response apart octetStream
  | content content => rfl
  | status status => rfl
  | contentType contentType =>
      rw [Edit.apply_contentType]
      exact values_setContentType response apart contentType
  | extension extension => exact values_setContentType response apart (table.get extension)
  | header spelling text =>
      rw [Edit.apply_header, Response.locations, values_setHeader]
      show _ = (((Edit.header spelling text).touch? .location).map Option.toList).getD _
      cases (Edit.header spelling text).touch? .location <;> rfl
  | remove spelling =>
      show (response.removeHeader spelling).fields.values .location =
        (((Edit.remove spelling).touch? .location).map Option.toList).getD _
      rw [values_removeHeader]
      cases (Edit.remove spelling).touch? .location <;> rfl
  | redirect location status =>
      show (response.redirect location status).locations =
        ((FieldValue.ofText? location).map fun value => [value]).getD response.locations
      cases legal : FieldValue.ofText? location with
      | none => exact locations_redirect_of_illegal response legal status
      | some value => exact locations_redirect_of_legal response legal status
  | noContent status => exact values_setValue_of_ne _ apart.symm textHtml

/-- After any edits the location is what the last edit that touched it left. -/
theorem locations_applyAll (table : MimeTable) (edits : List Edit) :
    (Edit.applyAll table edits response).locations =
      (edits.filterMap Edit.location?).getLastD response.locations :=
  foldl_getLastD (fun current edit => locations_apply current table edit) edits response

theorem locations_reply : response.reply.fields.values .location = response.locations := by
  have apart : FieldName.contentLength ≠ .location := by decide
  exact (Fields.values_set response.fields .contentLength .location _).trans (if_neg apart)

end Locations

/-! ### Redirects -/

theorem isRedirect_iff (status : Status) :
    status.isRedirect = true ↔ status.code ∈ redirectCodes :=
  List.contains_iff_mem

section Redirects

variable {response : Response} {location : String}

/-- What a response points to is a legal value. -/
theorem isLegalValue_of_pointsTo (points : response.PointsTo location) :
    IsLegalValue location := by
  obtain ⟨value, -, held⟩ := points
  exact Option.isSome_iff_exists.2 ⟨value, ofText?_eq_some_iff.2 held⟩

theorem pointsTo_redirect_iff (status : Status) :
    (response.redirect location status).PointsTo location ↔ IsLegalValue location := by
  constructor
  · exact isLegalValue_of_pointsTo
  · intro legal
    obtain ⟨value, legal⟩ := Option.isSome_iff_exists.1 legal
    exact ⟨value, locations_redirect_of_legal response legal status, bytes_of_ofText? legal⟩

theorem status_redirect (status : Status) :
    (response.redirect location status).status =
      if status.code ∈ redirectCodes then status else .movedPermanently := by
  simp only [← isRedirect_iff]
  rfl

end Redirects

/-- After a redirect the status is one of a redirect, the one that was asked for if that is
one and 301 if it is not; the content is empty, of type HTML, and no field is changed but
the type and the location.  The redirect points to its location if and only if that is a
legal value.  If it is not, the location is what it was before, be it another one or none.
The reply has the same location, and so has any later response in which no edit has
touched it since. -/
theorem redirect_points_iff_legal (table : MimeTable) (response : Response) (location : String)
    (status : Status) :
    let redirected := response.redirect location status
    redirected.status.code ∈ redirectCodes ∧
      redirected.status = (if status.code ∈ redirectCodes then status else .movedPermanently) ∧
      redirected.content = [] ∧
      (∃ html, redirected.fields.values .contentType = [html] ∧ html.bytes = encode textHtml) ∧
      (∀ name, name ≠ .location → name ≠ .contentType →
        redirected.fields.values name = response.fields.values name) ∧
      (redirected.PointsTo location ↔ IsLegalValue location) ∧
      (¬ IsLegalValue location → redirected.locations = response.locations) ∧
      redirected.reply.fields.values .location = redirected.locations ∧
      ∀ edits, (Edit.applyAll table edits redirected).locations =
        (edits.filterMap Edit.location?).getLastD redirected.locations := by
  intro redirected
  have given : redirected.status =
      if status.code ∈ redirectCodes then status else .movedPermanently := status_redirect status
  refine ⟨?_, given, rfl, ?_, ?_, pointsTo_redirect_iff status, ?_, locations_reply redirected,
    locations_applyAll redirected table⟩
  · rw [given]
    split
    · assumption
    · decide
  · obtain ⟨html, legal, -⟩ := @ofText?_of_visible textHtml (isVisible_of_all (by decide))
    exact ⟨html, (values_setValue legal _ .contentType _).trans (if_pos rfl),
      bytes_of_ofText? legal⟩
  · intro name other apart
    exact (values_setValue_of_ne _ apart.symm textHtml).trans
      (values_setValue_of_ne response.fields other.symm location)
  · intro illegal
    exact locations_redirect_of_illegal response (Option.not_isSome_iff_eq_none.1 illegal) status

/-- A redirect to a location in two lines keeps the location of the one before, and takes a
status of its own. -/
theorem redirect_points_iff_legal_two_lines :
    let response := Response.initial.redirect "/old" .movedPermanently
    let redirected := response.redirect "/new\nline" .success
    ¬ IsLegalValue "/new\nline" ∧ response.PointsTo "/old" ∧ redirected.PointsTo "/old" ∧
      ¬ redirected.PointsTo "/new\nline" ∧ redirected.status = .movedPermanently ∧
      redirected.fields.values .acceptCharset = response.fields.values .acceptCharset := by
  intro response redirected
  have legal : IsLegalValue "/old" := (isLegalValue_iff _).2 (by decide)
  have illegal : ¬ IsLegalValue "/new\nline" := fun legal =>
    absurd ((isLegalValue_iff _).1 legal) (by decide)
  have points : response.PointsTo "/old" :=
    (redirect_points_iff_legal .standard .initial "/old" .movedPermanently).2.2.2.2.2.1.2 legal
  obtain ⟨-, status, -, -, others, pointed, kept, -, -⟩ :=
    redirect_points_iff_legal .standard response "/new\nline" .success
  refine ⟨illegal, points, ?_, mt pointed.1 illegal, status, others _ (by decide) (by decide)⟩
  obtain ⟨value, only, held⟩ := points
  exact ⟨value, (kept illegal).trans only, held⟩

/-- A redirect that cannot have its location is not undone: it gets its status, and the
location of the redirect before it. -/
theorem redirect_points_elsewhere :
    ¬ ∀ (response : Response) (location : String) (status : Status),
      let redirected := response.redirect location status
      (redirected.status.code ∈ redirectCodes ∧ redirected.content = [] ∧
        redirected.PointsTo location) ∨
      (¬ IsLegalValue location ∧ redirected = response) := by
  intro always
  have illegal : ¬ IsLegalValue "/new\nline" := fun legal =>
    absurd ((isLegalValue_iff _).1 legal) (by decide)
  rcases always (Response.initial.redirect "/old" ⟨302, by decide⟩) "/new\nline"
    ⟨303, by decide⟩ with ⟨-, -, points⟩ | ⟨-, same⟩
  · exact illegal (isLegalValue_of_pointsTo points)
  · exact absurd (congrArg (·.status.code) same) (by decide)

end WebHost
