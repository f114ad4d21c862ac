/-
Module: WebHost.Header.Field
Purpose: Names and values of header fields.
Main exports:
  FieldName, FieldName.parse?, FieldValue, FieldValue.ofBytes?, FieldValue.ofText?,
  FieldValue.text?
-/
import WebHost.Text.Ascii
import WebHost.Text.Utf8

namespace WebHost

open Text

/-!
A field name is a token of at most 65535 characters, kept in small letters, so
that names compare without regard to case.  A field value is any byte list
without controls other than the tab; it may hold an encoding of any text.  Read
as text it is only when every byte is visible ASCII, a space or a tab.
-/

/-- The punctuation that a token may hold. -/
def tokenMarks : List Char :=
  ['!', '#', '$', '%', '&', '\'', '*', '+', '-', '.', '^', '_', '\x60', '|', '~']

/-- A character of a token. -/
def isTokenChar (character : Char) : Bool :=
  character.isAlphanum || tokenMarks.contains character

/-- A non-empty run of token characters. -/
def isToken (text : String) : Bool :=
  text.toList ≠ [] && text.toList.all isTokenChar

/-- The greatest length of a field name. -/
def nameLimit : Nat := 65535

/-- The text is a field name in its kept form: a token without capitals. -/
def isFieldName (text : String) : Bool :=
  isToken text && text.toList.length ≤ nameLimit && text.toList.all (fun c => !c.isUpper)

/-- The name of a header field, in small letters. -/
structure FieldName where
  text : String
  legal : isFieldName text = true
deriving Repr, DecidableEq

namespace FieldName

/-- The field name spelt by a text, in any letter case. -/
def parse? (spelling : String) : Option FieldName :=
  let folded := foldCase spelling
  if legal : isFieldName folded = true then some ⟨folded, legal⟩ else none

def accept : FieldName := ⟨"accept", by decide⟩
def acceptCharset : FieldName := ⟨"accept-charset", by decide⟩
def allow : FieldName := ⟨"allow", by decide⟩
def allowOrigin : FieldName := ⟨"access-control-allow-origin", by decide⟩
def authorization : FieldName := ⟨"authorization", by decide⟩
def connection : FieldName := ⟨"connection", by decide⟩
def contentLength : FieldName := ⟨"content-length", by decide⟩
def contentType : FieldName := ⟨"content-type", by decide⟩
def location : FieldName := ⟨"location", by decide⟩
def requestId : FieldName := ⟨"x-request-id", by decide⟩
def server : FieldName := ⟨"server", by decide⟩
def socketAccept : FieldName := ⟨"sec-websocket-accept", by decide⟩
def socketKey : FieldName := ⟨"sec-websocket-key", by decide⟩
def socketProtocol : FieldName := ⟨"sec-websocket-protocol", by decide⟩
def socketVersion : FieldName := ⟨"sec-websocket-version", by decide⟩
def upgrade : FieldName := ⟨"upgrade", by decide⟩
def userAgent : FieldName := ⟨"user-agent", by decide⟩

end FieldName

/-- A byte that a field value may hold: a tab, or anything from the space on
but the delete character. -/
def isValueByte (byte : UInt8) : Bool :=
  byte == 9 || (32 ≤ byte && byte != 127)

/-- A byte of a field value that is read as text. -/
def isVisibleByte (byte : UInt8) : Bool :=
  byte == 9 || (32 ≤ byte && byte < 127)

/-- The value of a header field. -/
structure FieldValue where
  bytes : Bytes
  legal : bytes.all isValueByte = true
deriving Repr, DecidableEq

namespace FieldValue

/-- The field value with these bytes, if they are legal. -/
def ofBytes? (bytes : Bytes) : Option FieldValue :=
  if legal : bytes.all isValueByte = true then some ⟨bytes, legal⟩ else none

/-- The field value that holds the encoding of a text, if that is legal. -/
def ofText? (text : String) : Option FieldValue :=
  ofBytes? (encode text)

/-- The value as text, if every byte of it is visible. -/
def text? (value : FieldValue) : Option String :=
  if value.bytes.all isVisibleByte then
    some (String.ofList (value.bytes.map fun byte => Char.ofNat byte.toNat))
  else
    none

/-- The first of some texts that is a legal value, else the empty value. -/
def ofTexts (candidates : List String) : FieldValue :=
  (candidates.findSome? ofText?).getD ⟨[], rfl⟩

/-- The value that writes a natural number. -/
def ofNatural (number : Nat) : FieldValue :=
  ofTexts [String.ofList (Nat.toDigits 10 number)]

theorem ofBytes?_eq_some_iff {bytes : Bytes} {value : FieldValue} :
    ofBytes? bytes = some value ↔ value.bytes = bytes := by
  obtain ⟨held, legal⟩ := value
  unfold ofBytes?
  split
  · simp [eq_comm]
  · rename_i illegal
    simp only [reduceCtorEq, false_iff]
    exact fun same => illegal (same ▸ legal)

end FieldValue

end WebHost
