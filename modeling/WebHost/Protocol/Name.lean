/-
Module: WebHost.Protocol.Name
Purpose: Names of WebSocket sub-protocols and the header that offers them.
Main exports:
  isProtocolName, offerText, splitOffer, offeredProtocols
-/
import WebHost.Header.Fields

namespace WebHost

open Text

/-!
A client offers protocols in `Sec-WebSocket-Protocol`, by names between commas
on any number of lines.  A protocol name is visible ASCII without a comma, a
semicolon or a double quote, so that it survives that header.
-/

/-- A character of a protocol name. -/
def isProtocolChar (character : Char) : Bool :=
  0x21 ≤ character.toNat && character.toNat ≤ 0x7E && !([',', '"', ';'].contains character)

/-- The text can be offered in a handshake. -/
def isProtocolName (name : String) : Bool :=
  name.toList ≠ [] && name.toList.all isProtocolChar

/-- Names joined to the value of one offer line. -/
def offerText (names : List String) : String :=
  ", ".intercalate names

/-- The names on one offer line; blanks around them and empty items are left out. -/
def splitOffer (line : String) : List String :=
  (((line.toList.splitOn ',').map trimBlanks).filter (· ≠ [])).map String.ofList

/-- The names that a header offers, over all its offer lines.  A line that is
not readable as text offers nothing. -/
def offeredProtocols (fields : Fields) : List String :=
  ((fields.values .socketProtocol).filterMap FieldValue.text?).flatMap splitOffer

end WebHost
