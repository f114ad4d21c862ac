/-
Module: WebHost.Url.Basic
Purpose: URLs: their parts, their text and how they are read.
Main exports:
  Url, Url.text, Url.parse?
-/
import WebHost.Url.Host

namespace WebHost

open Number Text

/-!
A URL has a scheme, then either an authority and a path of segments, or a path
without structure.  Special schemes always have a host and treat a backslash
like a slash.  Reading drops blanks around the text and line breaks and tabs
inside it, resolves segments of dots, leaves out the default port and escapes
what may not stand as it is.
-/

/-- A URL.  `userInfo` is empty when there is none; a path without structure
has no authority before it. -/
structure Url where
  scheme : String
  hasAuthority : Bool
  userInfo : String
  host : Option UrlHost
  port : Option Nat
  path : String
  query : Option String
  fragment : Option String
deriving Repr, Inhabited, DecidableEq

namespace Url

/-- The port of a scheme, if it is special and has one. -/
def defaultPort? (scheme : String) : Option Nat :=
  if scheme = "http" ∨ scheme = "ws" then some 80
  else if scheme = "https" ∨ scheme = "wss" then some 443
  else if scheme = "ftp" then some 21
  else none

/-- Schemes whose URLs have hosts. -/
def isSpecial (scheme : String) : Bool :=
  ["http", "https", "ws", "wss", "ftp", "file"].contains scheme

/-- The text of a URL. -/
def text (url : Url) : String :=
  let authority :=
    if url.hasAuthority then
      "//" ++ (if url.userInfo = "" then "" else url.userInfo ++ "@") ++
        (url.host.map UrlHost.text).getD "" ++
        (url.port.map fun port => ":" ++ naturalText port).getD ""
    else ""
  url.scheme ++ ":" ++ authority ++ url.path ++
    (url.query.map fun query => "?" ++ query).getD "" ++
    (url.fragment.map fun fragment => "#" ++ fragment).getD ""

/-- Escaped in fragments. -/
def escapesFragment (character : Char) : Bool :=
  UrlHost.isControl character || [' ', '"', '<', '>', '\x60'].contains character

/-- Escaped in paths. -/
def escapesPath (character : Char) : Bool :=
  escapesFragment character || ['#', '?', '\x7b', '\x7d'].contains character

/-- Escaped in user information. -/
def escapesUserInfo (character : Char) : Bool :=
  escapesPath character ||
    ['/', ':', ';', '=', '@', '[', '\\', ']', '^', '|'].contains character

/-- Escaped in queries; special URLs also escape the apostrophe. -/
def escapesQuery (special : Bool) (character : Char) : Bool :=
  UrlHost.isControl character || [' ', '"', '#', '<', '>'].contains character ||
    (special && character == '\'')

/-- The scheme in small letters and what follows its colon. -/
def readScheme? (characters : List Char) : Option (String × List Char) :=
  let scheme := characters.takeWhile fun c => c.isAlphanum || ['+', '-', '.'].contains c
  match scheme.head?, characters.drop scheme.length with
  | some first, ':' :: rest =>
      if first.isAlpha then some (String.ofList (scheme.map Char.toLower), rest) else none
  | _, _ => none

/-- A character that ends an authority. -/
def endsAuthority (special : Bool) (character : Char) : Bool :=
  ['/', '?', '#'].contains character || (special && character == '\\')

/-- The text of user information: a user, and a password after the first colon
unless it is empty. -/
def userInfoText (characters : List Char) : String :=
  match cutAt ':' characters with
  | some (user, password) =>
      let user := percentEncodeWith escapesUserInfo user
      if password = [] then String.ofList user
      else String.ofList (user ++ ':' :: percentEncodeWith escapesUserInfo password)
  | none => String.ofList (percentEncodeWith escapesUserInfo characters)

/-- The port after its colon, in decimal digits; none if it is the default. -/
def readPort? (scheme : String) (digits : List Char) : Option (Option Nat) :=
  if digits = [] then some none
  else
    match readDigits? digits with
    | some port =>
        if 65535 < port then none
        else some (if defaultPort? scheme = some port then none else some port)
    | none => none

/-- The characters of a host, up to a colon outside brackets, and the rest. -/
def spanHost : Bool → List Char → List Char × List Char
  | _, [] => ([], [])
  | bracketed, character :: rest =>
      if character = ':' ∧ !bracketed then ([], character :: rest)
      else
        let inside := if character = '[' then true else if character = ']' then false else bracketed
        let (host, after) := spanHost inside rest
        (character :: host, after)

/-- A segment that stands for the directory it is in. -/
def isDot (segment : List Char) : Bool :=
  let folded := String.ofList (segment.map Char.toLower)
  folded = "." || folded = "%2e"

/-- A segment that stands for the directory above. -/
def isDoubleDot (segment : List Char) : Bool :=
  let folded := String.ofList (segment.map Char.toLower)
  [ "..", ".%2e", "%2e.", "%2e%2e" ].contains folded

/-- A segment that names a drive: a letter before a colon or a bar. -/
def isDrive : List Char → Bool
  | [letter, mark] => letter.isAlpha && (mark == ':' || mark == '|')
  | _ => false

/-- Go up from the last of some segments, which are in reverse.  Among files a
drive has nothing above it. -/
def goUp (file : Bool) : List (List Char) → List (List Char)
  | [] => []
  | last :: above => if file && above.isEmpty && isDrive last then [last] else above

/-- Go down to a segment from others, which are in reverse.  Among files a first
segment that names a drive is written with a colon. -/
def goDown (file : Bool) (segment : List Char) (resolved : List (List Char)) :
    List (List Char) :=
  if file && resolved.isEmpty && isDrive segment then [segment.take 1 ++ [':']]
  else segment :: resolved

/-- Resolve the segments of dots; what is resolved so far is in reverse. -/
def resolveDots (file : Bool) : List (List Char) → List (List Char) → List (List Char)
  | resolved, [] => resolved.reverse
  | resolved, [last] =>
      if isDoubleDot last then ([] :: goUp file resolved).reverse
      else if isDot last then ([] :: resolved).reverse
      else (goDown file last resolved).reverse
  | resolved, segment :: rest =>
      if isDoubleDot segment then resolveDots file (goUp file resolved) rest
      else if isDot segment then resolveDots file resolved rest
      else resolveDots file (goDown file segment resolved) rest

/-- The segments of the path that some characters write after an authority. -/
def pathSegments (scheme : String) (characters : List Char) : List (List Char) :=
  let special := isSpecial scheme
  let slashed := characters.map fun c => if special ∧ c = '\\' then '/' else c
  let relative := match slashed with
    | '/' :: rest => rest
    | rest => rest
  if slashed = [] ∧ !special then []
  else
    resolveDots (scheme == "file") [] ((relative.splitOn '/').map (percentEncodeWith escapesPath))

/-- The path with some segments.  A path of a file does not start with an empty
segment. -/
def pathText (scheme : String) (segments : List (List Char)) : String :=
  let kept := if scheme = "file" then segments.dropWhile (· == []) else segments
  if segments = [] then ""
  else if kept = [] then "/"
  else String.ofList (kept.flatMap fun segment => '/' :: segment)

/-- Query and fragment of a URL. -/
def readTail (special : Bool) (characters : List Char) : Option String × Option String :=
  let (before, fragment) := match cutAt '#' characters with
    | some (before, after) =>
        (before, some (String.ofList (percentEncodeWith escapesFragment after)))
    | none => (characters, none)
  let query := match before with
    | '?' :: query => some (String.ofList (percentEncodeWith (escapesQuery special) query))
    | _ => none
  (query, fragment)

/-- A path ends where a query or a fragment begins. -/
def endsPath (character : Char) : Bool :=
  character == '?' || character == '#'

/-- The host of a URL of some scheme.  A special URL has a host; `localhost` is
no host of a file. -/
def readHost? (scheme : String) (characters : List Char) : Option (Option UrlHost) :=
  if scheme = "file" then
    if characters = [] then some none
    else
      (UrlHost.parse? characters).map fun host =>
        if host = .domain "localhost" then none else some host
  else if isSpecial scheme then
    if characters = [] then none else (UrlHost.parse? characters).map some
  else if characters = [] then some none
  else (UrlHost.parsePlain? characters).map some

/-- The authority that some characters start with.  Among files a drive is no
authority. -/
def authorityOf (scheme : String) (characters : List Char) : List Char :=
  let found := characters.takeWhile fun c => !endsAuthority (isSpecial scheme) c
  if scheme = "file" ∧ isDrive found then [] else found

/-- The user information before the last at sign, and the server.  Files have no
user information. -/
def splitUserInfo (scheme : String) (authority : List Char) : Option (List Char) × List Char :=
  if scheme = "file" then (none, authority)
  else
    match cutAtLast '@' authority with
    | some (before, after) => (some before, after)
    | none => (none, authority)

/-- The host of a server, and the port from its colon on.  Files have no port. -/
def splitServer (scheme : String) (server : List Char) : List Char × List Char :=
  if scheme = "file" then (server, []) else spanHost false server

/-- The port from its colon on.  Nothing has a port without a host. -/
def readPortPart? (scheme : String) (host : Option UrlHost) : List Char → Option (Option Nat)
  | ':' :: digits => if host = none then none else readPort? scheme digits
  | _ => some none

/-- The URL with an authority and the characters after it. -/
def afterAuthority (scheme userInfo : String) (host : Option UrlHost) (port : Option Nat)
    (rest : List Char) : Url :=
  let path := rest.takeWhile fun c => !endsPath c
  let (query, fragment) := readTail (isSpecial scheme) (rest.drop path.length)
  let segments := pathSegments scheme path
  let onDrive := scheme = "file" ∧ (segments.head?.map isDrive).getD false
  { scheme := scheme
    hasAuthority := true
    userInfo := userInfo
    host := if onDrive then none else host
    port := port
    path := pathText scheme segments
    query := query
    fragment := fragment }

/-- A URL after the two slashes that start its authority. -/
def readAuthority? (scheme : String) (characters : List Char) : Option Url := do
  let authority := authorityOf scheme characters
  let rest := characters.drop authority.length
  let (userInfo, server) := splitUserInfo scheme authority
  let (hostText, portPart) := splitServer scheme server
  let host ← readHost? scheme hostText
  let port ← readPortPart? scheme host portPart
  let user := (userInfo.map userInfoText).getD ""
  if host = none ∧ userInfo.isSome ∧ (user ≠ "" ∨ rest ≠ []) then none
  else some (afterAuthority scheme user host port rest)

/-- A URL whose path has no structure. -/
def readPlain (scheme : String) (characters : List Char) : Url :=
  let path := characters.takeWhile fun c => !endsPath c
  let (query, fragment) := readTail false (characters.drop path.length)
  { scheme := scheme
    hasAuthority := false
    userInfo := ""
    host := none
    port := none
    path :=
      if path.head? = some '/' then pathText scheme (pathSegments scheme path)
      else String.ofList (percentEncodeWith UrlHost.isControl path)
    query := query
    fragment := fragment }

/-- A control or a space, which do not count at the ends of a URL. -/
def isEdge (character : Char) : Bool :=
  character.toNat ≤ 0x20

/-- The characters of a text that count in a URL. -/
def tidy (text : String) : List Char :=
  (trimWhile isEdge text.toList).filter fun c => !(['\t', '\n', '\r'].contains c)

/-- A slash of either kind. -/
def isSlash (character : Char) : Bool :=
  character == '/' || character == '\\'

/-- A URL after its scheme and the colon. -/
def readAfterScheme? (scheme : String) (rest : List Char) : Option Url :=
  if scheme = "file" then
    match rest with
    | first :: second :: after =>
        if isSlash first ∧ isSlash second then readAuthority? scheme after
        else readAuthority? scheme (if isSlash first then rest else '/' :: rest)
    | _ => readAuthority? scheme ('/' :: rest.dropWhile isSlash)
  else if isSpecial scheme then readAuthority? scheme (rest.dropWhile isSlash)
  else
    match rest with
    | '/' :: '/' :: after => readAuthority? scheme after
    | _ => some (readPlain scheme rest)

/-- The URL that a text writes. -/
def parse? (text : String) : Option Url := do
  let (scheme, rest) ← readScheme? (tidy text)
  readAfterScheme? scheme rest

end Url

end WebHost
