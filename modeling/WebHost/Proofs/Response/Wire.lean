/-
Module: WebHost.Proofs.Response.Wire
Purpose: The reply that a run of edits leads to, and the edits that leave no trace in it.
Main exports:
  Edit.call, Edit.Fails, Edit.status?, Edit.written?, apply_eq_call, call_of_fails,
  applyAll_filter, reply_of_edits
-/
import WebHost.Proofs.Header.Finding
import WebHost.Proofs.Lists
import WebHost.Proofs.Response.Edits

namespace WebHost

open Number Text

/-!
The status and the body of a reply are decided by the last edit that set them.  A length
that an edit puts into the header counts for nothing, since the reply says the length of
its body; every other field is sent as it was left.  An edit fails before it has changed
anything, so that a run is the same with and without it.
-/

namespace Edit

/-! ### Edits as calls -/

/-- What an edit asks of a response, whether or not the response grants it.  Of JSON that
cannot be written nothing is left to ask. -/
def call (table : MimeTable) : Edit → Response → Response
  | .plain text, response => response.setPlainContent text
  | .json none, response => response
  | .json (some value), response => response.setJsonContent value
  | .bytes data, response => response.setByteContent data
  | .content data, response => response.setContent data
  | .status code, response => response.setStatus code
  | .contentType text, response => response.setContentType text
  | .extension text, response => response.setContentTypeOf table text
  | .header name value, response => response.setHeader name value
  | .remove name, response => response.removeHeader name
  | .redirect location code, response => response.redirect location code
  | .noContent code, response => response.noContent code

/-- An edit fails: it writes JSON that cannot be written, or sets a field whose name is
none or whose value is not legal. -/
inductive Fails (table : MimeTable) : Edit → Prop where
  | json : Fails table (.json none)
  | contentType {text : String} (illegal : ¬ IsLegalValue text) : Fails table (.contentType text)
  | extension {text : String} (illegal : ¬ IsLegalValue (table.get text)) :
      Fails table (.extension text)
  | headerName {name value : String} (unnamed : ¬ SpellsName name) :
      Fails table (.header name value)
  | headerValue {name value : String} (illegal : ¬ IsLegalValue value) :
      Fails table (.header name value)

/-- The status that an edit sets, if it does.  A redirect has a status of its own when it
is given none that redirects. -/
def status? : Edit → Option Status
  | .status code => some code
  | .redirect _ code => some (if code.isRedirect then code else .movedPermanently)
  | .noContent code => some code
  | _ => none

/-- The content that an edit writes, if it does.  Redirects and answers without content
write the empty one. -/
def written? : Edit → Option Bytes
  | .plain text => some (encode text)
  | .json (some value) => some value.toBytes
  | .bytes data => some data
  | .content data => some data
  | .redirect _ _ => some []
  | .noContent _ => some []
  | _ => none

variable (table : MimeTable)

/-- An edit does what it asks, since what it asks comes to nothing where it fails. -/
theorem apply_eq_call (edit : Edit) (response : Response) :
    edit.apply table response = edit.call table response := by
  cases edit with
  | json value => cases value <;> rfl
  | contentType text => exact apply_contentType table response text
  | header name value => exact apply_header table response name value
  | _ => rfl

theorem setContentType_of_illegal {text : String} (illegal : ¬ IsLegalValue text)
    (response : Response) : response.setContentType text = response := by
  have unset : FieldValue.ofText? text = none := Option.not_isSome_iff_eq_none.1 illegal
  rw [Response.setContentType, setValue_of_illegal unset]

theorem setHeader_of_illegal {name value : String}
    (illegal : ¬ (SpellsName name ∧ IsLegalValue value)) (response : Response) :
    response.setHeader name value = response := by
  rw [Response.setHeader, setText_of_illegal illegal]

variable {table}

/-- An edit that fails leaves the response as it was. -/
theorem call_of_fails {edit : Edit} (fails : edit.Fails table) (response : Response) :
    edit.call table response = response := by
  cases fails with
  | json => rfl
  | contentType illegal => exact setContentType_of_illegal illegal response
  | extension illegal => exact setContentType_of_illegal illegal response
  | headerName unnamed => exact setHeader_of_illegal (fun both => unnamed both.1) response
  | headerValue illegal => exact setHeader_of_illegal (fun both => illegal both.2) response

theorem setDefaultContentType_status (response : Response) (contentType : String) :
    (response.setDefaultContentType contentType).status = response.status := by
  unfold Response.setDefaultContentType
  split <;> rfl

theorem call_status (edit : Edit) (response : Response) :
    (edit.call table response).status = edit.status?.getD response.status := by
  cases edit with
  | json value =>
      cases value with
      | none => rfl
      | some value => exact setDefaultContentType_status response applicationJson
  | plain text => exact setDefaultContentType_status response textPlain
  | bytes data => exact setDefaultContentType_status response octetStream
  | _ => rfl

theorem call_content (edit : Edit) (response : Response) :
    (edit.call table response).content = edit.written?.getD response.content := by
  cases edit with
  | json value => cases value <;> rfl
  | _ => rfl

/-! ### Runs of edits -/

theorem applyAll_eq_calls (edits : List Edit) (response : Response) :
    applyAll table edits response =
      edits.foldl (fun current edit => edit.call table current) response := by
  simp only [applyAll, apply_eq_call]

/-- The last edit that sets a status decides on it. -/
theorem applyAll_status (edits : List Edit) (response : Response) :
    (applyAll table edits response).status =
      (edits.filterMap status?).getLastD response.status := by
  rw [applyAll_eq_calls]
  exact foldl_getLastD (fun current edit => call_status edit current) edits response

/-- The last edit that writes content decides on it. -/
theorem applyAll_content (edits : List Edit) (response : Response) :
    (applyAll table edits response).content =
      (edits.filterMap written?).getLastD response.content := by
  rw [applyAll_eq_calls]
  exact foldl_getLastD (fun current edit => call_content edit current) edits response

/-- Edits that fail can be left out of a run. -/
theorem applyAll_filter {kept : Edit → Bool} {edits : List Edit}
    (failed : ∀ edit ∈ edits, kept edit = false → edit.Fails table) (response : Response) :
    applyAll table (edits.filter kept) response = applyAll table edits response := by
  rw [applyAll_eq_calls, applyAll_eq_calls]
  exact foldl_filter_of_idle
    (fun edit member dropped => call_of_fails (failed edit member dropped)) response

end Edit

/-! ### The reply -/

/-- A header announces a length by one value, and but for that it is this header. -/
structure Fields.Announces (fields sent : Fields) (length : Nat) : Prop where
  announced : ∃ value, sent.values .contentLength = [value] ∧
    value.bytes = encode (naturalText length)
  others : sent.erase .contentLength = fields.erase .contentLength

theorem announces_setContentLength (fields : Fields) (length : Nat) :
    fields.Announces (fields.setContentLength length) length where
  announced := by
    refine ⟨.ofNatural length, ?_, bytes_ofNatural length⟩
    rw [Fields.setContentLength, Fields.values_set, if_pos rfl]
  others := by
    simp [Fields.setContentLength, Fields.set, Fields.erase, Fields.append, List.filter_filter]

/-- A run of edits on a new response asks for one thing after the other, and the reply
made of it has the status that was set last and the content that was written last, 200
and none if there were no such edits.  It announces the length of this content once,
whatever was put into the header for it, and sends all other fields as they are in the
header.  Any edits that failed can be left out, and the reply is the same. -/
theorem reply_of_edits (table : MimeTable) (edits : List Edit) :
    let final := Edit.applyAll table edits .initial
    final = edits.foldl (fun current edit => edit.call table current) .initial ∧
      final.reply.status = final.status ∧
      final.status = (edits.filterMap Edit.status?).getLastD .success ∧
      final.reply.body = (edits.filterMap Edit.written?).getLastD [] ∧
      final.fields.Announces final.reply.fields final.reply.body.length ∧
      ∀ kept : Edit → Bool, (∀ edit ∈ edits, kept edit = false → edit.Fails table) →
        (Edit.applyAll table (edits.filter kept) .initial).reply = final.reply := by
  intro final
  refine ⟨Edit.applyAll_eq_calls edits .initial, rfl, Edit.applyAll_status edits .initial,
    Edit.applyAll_content edits .initial,
    announces_setContentLength final.fields final.content.length, ?_⟩
  intro kept failed
  rw [Edit.applyAll_filter failed]

/-- A forged length, and edits that failed, leave no trace in the reply. -/
theorem reply_of_edits_forged :
    let edits : List Edit := [.header "CONTENT-length" "99", .plain "hé", .json none,
      .status .notFound, .contentType "a\nb"]
    let kept : Edit → Bool
      | .json none => false
      | .contentType _ => false
      | _ => true
    (∀ edit ∈ edits, kept edit = false → edit.Fails .standard) ∧
      (Edit.applyAll .standard edits .initial).reply.status = .notFound ∧
      (Edit.applyAll .standard edits .initial).reply.body.length = 3 ∧
      (Edit.applyAll .standard (edits.filter kept) .initial).reply =
        (Edit.applyAll .standard edits .initial).reply := by
  intro edits kept
  have illegal : ¬ IsLegalValue "a\nb" := fun legal =>
    absurd ((isLegalValue_iff _).1 legal) (by decide)
  have failed : ∀ edit ∈ edits, kept edit = false → edit.Fails .standard := by
    intro edit member dropped
    simp only [edits, List.mem_cons, List.not_mem_nil, or_false] at member
    rcases member with rfl | rfl | rfl | rfl | rfl
    · cases dropped
    · cases dropped
    · exact .json
    · cases dropped
    · exact .contentType illegal
  obtain ⟨-, sent, status, body, -, same⟩ := reply_of_edits .standard edits
  refine ⟨failed, sent.trans status, ?_, same kept failed⟩
  rw [body]
  decide

end WebHost
