/-
Module: WebHost.RequestId
Purpose: Ids that tell requests apart.
Main exports:
  randomIdText, isRandomId, requestIdText
-/
import WebHost.Header.Fields
import WebHost.Text.Hex

namespace WebHost

open Text

/-!
A request without an id of its own gets one made of sixteen random bytes.  It
is written in small hexadecimal digits, in groups of eight, four, four, four
and twelve; the first digit of the third group is 4 and the first of the fourth
one of 8, 9, a and b, which says that the rest is random.
-/

/-- Put the marks of a random id among sixteen bytes. -/
def markRandomId (bytes : Bytes) : Bytes :=
  bytes.mapIdx fun index byte =>
    if index = 6 then byte % 16 + 0x40 else if index = 8 then byte % 64 + 0x80 else byte

/-- The groups of digits of an id. -/
def idGroups (digits : List Char) : List (List Char) :=
  [digits.take 8, (digits.drop 8).take 4, (digits.drop 12).take 4, (digits.drop 16).take 4,
    (digits.drop 20).take 12]

/-- The id made of sixteen random bytes. -/
def randomIdText (bytes : Bytes) : String :=
  String.ofList (['-'].intercalate (idGroups ((markRandomId bytes).flatMap hexPair)))

/-- A text has the form of an id made of random bytes. -/
def isRandomId (text : String) : Bool :=
  match text.toList.splitOn '-' with
  | [first, second, third, fourth, last] =>
      [first, second, third, fourth, last].map List.length == [8, 4, 4, 4, 12] &&
        [first, second, third, fourth, last].all (fun group =>
          group.all fun digit => (Json.hexValue? digit).isSome) &&
        third.head? == some '4' &&
        (fourth.head?.map fun digit => ['8', '9', 'a', 'b'].contains digit).getD false
  | _ => false

/-- The id of a request as log lines show it. -/
def requestIdText (fields : Fields) : String :=
  (fields.text? .requestId).getD "unknown"

end WebHost
