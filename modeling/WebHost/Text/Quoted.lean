/-
Module: WebHost.Text.Quoted
Purpose: Text between double quotes, with escapes for what would not show.
Main exports:
  escapeChar, quoteText
-/
import WebHost.Text.Visible

namespace WebHost.Text

/-!
Diagnostics show a text between double quotes.  The quote and the backslash
are escaped by a backslash, so are NUL, tab, line feed and carriage return by
their letters; a hidden character is written as its code point in braces.  An
apostrophe needs no escape here.
-/

/-- The written form of one character of a quoted text. -/
def escapeChar (character : Char) : List Char :=
  if character = '\x00' then ['\\', '0']
  else if character = '\t' then ['\\', 't']
  else if character = '\n' then ['\\', 'n']
  else if character = '\r' then ['\\', 'r']
  else if character = '"' then ['\\', '"']
  else if character = '\\' then ['\\', '\\']
  else if isHidden character then
    ['\\', 'u', '\x7b'] ++ Nat.toDigits 16 character.toNat ++ ['\x7d']
  else [character]

/-- A text between double quotes. -/
def quoteText (text : String) : String :=
  String.ofList ('"' :: (text.toList.flatMap escapeChar ++ ['"']))

end WebHost.Text
