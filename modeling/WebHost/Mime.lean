/-
Module: WebHost.Mime
Purpose: Content types and the table that maps file extensions to them.
Main exports:
  MimeTable, MimeTable.standard, MimeTable.get, MimeTable.add, mediaType
-/
import WebHost.Number.Decimal
import WebHost.Text.Ascii

namespace WebHost

open Number Text

/-!
Extensions are looked up in a normal form: without leading dots and in small
ASCII letters.  The latest content type for a normal form wins, the standard
ones being the earliest; an unknown extension is a text of that name.
-/

def textPlain : String := "text/plain"
def textHtml : String := "text/html"
def octetStream : String := "application/octet-stream"
def applicationJson : String := "application/json"

/-- The content types of the standard extensions. -/
def standardTypes : List (String × String) :=
  [("jpg", "image/jpeg"),
   ("jpeg", "image/jpeg"),
   ("png", "image/png"),
   ("gif", "image/gif"),
   ("js", "application/javascript"),
   ("json", applicationJson),
   ("tar", "application/x-tar"),
   ("css", "text/css"),
   ("csv", "text/csv"),
   ("htm", textHtml),
   ("html", textHtml),
   ("svg", "image/svg+xml"),
   ("ico", "image/vnd.microsoft.icon"),
   ("otf", "application/x-font-otf"),
   ("ttf", "application/x-font-ttf")]

/-- An extension without leading dots, in small letters. -/
def normalExtension (extension : String) : String :=
  String.ofList ((extension.toList.dropWhile (· == '.')).map Char.toLower)

/-- Content types by normal extension, the latest first. -/
structure MimeTable where
  entries : List (String × String)
deriving Repr, DecidableEq

namespace MimeTable

/-- The table of the standard extensions. -/
def standard : MimeTable := { entries := standardTypes }

instance : Inhabited MimeTable := ⟨standard⟩

/-- Give an extension a content type, in the place of the one it had. -/
def add (table : MimeTable) (extension contentType : String) : MimeTable :=
  { entries := (normalExtension extension, contentType) :: table.entries }

/-- The content type of an extension. -/
def get (table : MimeTable) (extension : String) : String :=
  let normal := normalExtension extension
  (table.entries.lookup normal).getD ("text/" ++ normal)

end MimeTable

/-- A media type with structure suffixes and, when it is positive, a quality. -/
def mediaType (kind subtype : String) (suffixes : List String) (quality : Binary) : String :=
  let named := kind ++ "/" ++ subtype ++ String.join (suffixes.map fun suffix => "+" ++ suffix)
  if quality.isPositive then named ++ ";q=" ++ onePlaceText quality else named

end WebHost
