/-
Module: WebHost.Response
Purpose: The response that an entry point fills in, and the reply made of it.
Main exports:
  Status, Response, Reply, Response.reply, Edit, Edit.result?, Edit.apply
-/
import WebHost.Header.Fields
import WebHost.Json.Writer
import WebHost.Mime

namespace WebHost

open Text

/-!
An entry point starts from a response with status 200 and edits it.  Writing
content chooses a content type only if none can be read from the header; an
edit that fails leaves the response as it was.  The reply announces the length
of the body whatever the entry point put there.
-/

/-- A status code. -/
structure Status where
  code : Nat
  legal : 100 ≤ code ∧ code ≤ 999
deriving Repr, DecidableEq

namespace Status

/-- The status with this code, which has three digits. -/
def ofCode? (code : Nat) : Option Status :=
  if legal : 100 ≤ code ∧ code ≤ 999 then some ⟨code, legal⟩ else none

def switchingProtocols : Status := ⟨101, by decide⟩
def success : Status := ⟨200, by decide⟩
def movedPermanently : Status := ⟨301, by decide⟩
def badRequest : Status := ⟨400, by decide⟩
def notFound : Status := ⟨404, by decide⟩
def methodNotAllowed : Status := ⟨405, by decide⟩
def lengthRequired : Status := ⟨411, by decide⟩
def contentTooLarge : Status := ⟨413, by decide⟩
def upgradeRequired : Status := ⟨426, by decide⟩
def internalError : Status := ⟨500, by decide⟩

instance : Inhabited Status := ⟨success⟩

/-- The statuses that a redirect may have. -/
def isRedirect (status : Status) : Bool :=
  [301, 302, 303, 304].contains status.code

end Status

/-- A response on its way to the client. -/
structure Reply where
  status : Status
  fields : Fields
  body : Bytes
deriving Repr, Inhabited, DecidableEq

/-- A response that an entry point fills in. -/
structure Response where
  status : Status
  fields : Fields
  content : Bytes
deriving Repr, DecidableEq

namespace Response

/-- The response that entry points start from. -/
def initial : Response :=
  { status := .success
    fields := Fields.empty.setValue .acceptCharset "utf-8"
    content := [] }

instance : Inhabited Response := ⟨initial⟩

def setStatus (response : Response) (status : Status) : Response :=
  { response with status := status }

/-- Set the content type; a text that is no legal value changes nothing. -/
def setContentType (response : Response) (contentType : String) : Response :=
  { response with fields := response.fields.setValue .contentType contentType }

def setContentTypeOf (response : Response) (table : MimeTable) (extension : String) : Response :=
  response.setContentType (table.get extension)

/-- Set the content type unless one can be read from the header. -/
def setDefaultContentType (response : Response) (contentType : String) : Response :=
  if (response.fields.text? .contentType).isSome then response
  else response.setContentType contentType

def setContent (response : Response) (content : Bytes) : Response :=
  { response with content := content }

def setPlainContent (response : Response) (text : String) : Response :=
  (response.setDefaultContentType textPlain).setContent (encode text)

def setByteContent (response : Response) (content : Bytes) : Response :=
  (response.setDefaultContentType octetStream).setContent content

/-- Write a value as JSON. -/
def setJsonContent (response : Response) (value : Json) : Response :=
  (response.setDefaultContentType applicationJson).setContent value.toBytes

def setHeader (response : Response) (name value : String) : Response :=
  { response with fields := response.fields.setText name value }

def removeHeader (response : Response) (name : String) : Response :=
  { response with fields := response.fields.eraseText name }

/-- Point the client to another location, without content.  A status that is
no redirect becomes 301. -/
def redirect (response : Response) (location : String) (status : Status) : Response :=
  { status := if status.isRedirect then status else .movedPermanently
    fields := (response.fields.setValue .location location).setValue .contentType textHtml
    content := [] }

/-- Answer with a status and without content. -/
def noContent (response : Response) (status : Status) : Response :=
  { status := status
    fields := response.fields.setValue .contentType textHtml
    content := [] }

/-- The reply: the response with the exact length of its content. -/
def reply (response : Response) : Reply :=
  { status := response.status
    fields := response.fields.setContentLength response.content.length
    body := response.content }

end Response

/-- One change that an entry point makes to its response. -/
inductive Edit where
  | plain (text : String)
  | json (value : Option Json)
  | bytes (content : Bytes)
  | content (content : Bytes)
  | status (status : Status)
  | contentType (contentType : String)
  | extension (extension : String)
  | header (name value : String)
  | remove (name : String)
  | redirect (location : String) (status : Status)
  | noContent (status : Status)
deriving Repr, Inhabited

namespace Edit

/-- The response after an edit, or nothing if the edit fails: a JSON value that
cannot be written, or a header name, header value or content type that is not
legal. -/
def result? (table : MimeTable) : Edit → Response → Option Response
  | .plain text, response => some (response.setPlainContent text)
  | .json none, _ => none
  | .json (some value), response => some (response.setJsonContent value)
  | .bytes data, response => some (response.setByteContent data)
  | .content data, response => some (response.setContent data)
  | .status code, response => some (response.setStatus code)
  | .contentType text, response =>
      (FieldValue.ofText? text).map fun _ => response.setContentType text
  | .extension text, response => some (response.setContentTypeOf table text)
  | .header name value, response =>
      match FieldName.parse? name, FieldValue.ofText? value with
      | some _, some _ => some (response.setHeader name value)
      | _, _ => none
  | .remove name, response => some (response.removeHeader name)
  | .redirect location code, response => some (response.redirect location code)
  | .noContent code, response => some (response.noContent code)

/-- The response after an edit; an edit that fails leaves no trace. -/
def apply (table : MimeTable) (edit : Edit) (response : Response) : Response :=
  (edit.result? table response).getD response

/-- The response after several edits. -/
def applyAll (table : MimeTable) (edits : List Edit) (response : Response) : Response :=
  edits.foldl (fun current edit => edit.apply table current) response

end Edit

end WebHost
