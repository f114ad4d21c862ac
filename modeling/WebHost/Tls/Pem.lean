/-
Module: WebHost.Tls.Pem
Purpose: Labelled sections of Base64 text, the form in which keys and certificates are kept.
Main exports:
  PemSection, pemSections
-/
import WebHost.Digest.Base64
import WebHost.Text.Ascii

namespace WebHost

open Text

/-!
A section stands between a line `-----BEGIN LABEL-----` and a line that starts
with `-----END LABEL-----`.  The lines between them, without the blanks at
their ends, are the Base64 text of its content.  Other lines outside sections
mean nothing.
-/

/-- A section: its label and its content. -/
structure PemSection where
  label : String
  content : Bytes
deriving Repr, Inhabited, DecidableEq

/-- The label that an opening line gives. -/
def openingLabel? (line : List Char) : Option (List Char) :=
  match "-----BEGIN ".toList.isPrefixOf? (trimEndWhile (· == ' ') line) with
  | none => none
  | some tail => ("-----".toList.isPrefixOf? tail.reverse).map List.reverse

/-- The start of the line that closes a section. -/
def closingMark (label : List Char) : List Char :=
  "-----END ".toList ++ label ++ "-----".toList

/-- Read lines.  The open section is given by its label and the Base64 text so
far.  A section that cannot be read is `none`. -/
def readSections : Option (List Char × List Char) → List (List Char) → List (Option PemSection)
  | none, [] => []
  | some _, [] => [none]
  | current, line :: rest =>
      if "-----BEGIN ".toList.isPrefixOf line then
        match openingLabel? line with
        | some label => readSections (some (label, [])) rest
        | none => none :: readSections none rest
      else
        match current with
        | none => readSections none rest
        | some (label, written) =>
            if (closingMark label).isPrefixOf line then
              ((base64Bytes? written).map fun content =>
                { label := String.ofList label, content := content }) ::
                readSections none rest
            else
              readSections (some (label, written ++ trimEndWhile (· == ' ') line)) rest

/-- The sections of a file.  One that is damaged is `none`. -/
def pemSections (content : Bytes) : List (Option PemSection) :=
  let isBreak := fun character => character == '\n' || character == '\r'
  readSections none ((decodeLossy content).toList.splitOnP isBreak)

end WebHost
