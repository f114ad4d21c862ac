/-
Module: WebHost.Target
Purpose: The target of a request: path and query, with or without an authority.
Main exports:
  Target, Target.parse?
-/
import WebHost.Text.Ascii

namespace WebHost

open Text

/-!
A target is a path with an optional query, a whole address with scheme and
authority, a lone authority such as `host:80`, or `*`.  A fragment is dropped.
The path of an address is `/` when it is empty; a lone authority has an empty
path.  Characters beyond ASCII may stand in paths and queries.
-/

/-- A request target: what is left of it once its form is known. -/
structure Target where
  authority : Option String
  path : String
  query : Option String
deriving Repr, Inhabited, DecidableEq

namespace Target

/-- The greatest size of a target, in bytes. -/
def sizeLimit : Nat := 65534

/-- A character of a path: none that is a control, a space, `<`, `>` or a
backtick, and none that ends the path. -/
def isPathChar (character : Char) : Bool :=
  0x20 < character.toNat && character.toNat ≠ 0x7F &&
    !(['#', '<', '>', '?', '\x60'].contains character)

/-- A character of a query, where the question mark and the backtick may stand
and the double quote may not. -/
def isQueryChar (character : Char) : Bool :=
  0x20 < character.toNat && character.toNat ≠ 0x7F &&
    !(['"', '#', '<', '>'].contains character)

/-- Path and query of a target. -/
def readPath? (characters : List Char) : Option (List Char × Option (List Char)) :=
  let path := characters.takeWhile fun c => c != '?' && c != '#'
  if !path.all isPathChar then none
  else
    match characters.drop path.length with
    | '?' :: rest =>
        let query := rest.takeWhile (· != '#')
        if query.all isQueryChar then some (path, some query) else none
    | _ => some (path, none)

/-- The characters of an authority that stand for themselves. -/
def isAuthorityChar (character : Char) : Bool :=
  character.isAlphanum ||
    ['!', '$', '&', '\'', '(', ')', '*', '+', ',', '-', '.', ';', '=', '_', '~'].contains character

/-- What has been seen of an authority. -/
structure AuthorityScan where
  colons : Nat
  opened : Bool
  closed : Bool
  percent : Bool
  lastIsAt : Bool
deriving Repr, Inhabited, DecidableEq

def AuthorityScan.start : AuthorityScan :=
  { colons := 0, opened := false, closed := false, percent := false, lastIsAt := false }

/-- Take one character of an authority; brackets enclose an address, and what
stands before an at sign is user information, whose colons and percent signs
do not count. -/
def AuthorityScan.step (scan : AuthorityScan) (character : Char) : Option AuthorityScan :=
  let scan := { scan with lastIsAt := false }
  if character = ':' then
    if 8 ≤ scan.colons then none else some { scan with colons := scan.colons + 1 }
  else if character = '[' then
    if scan.percent ∨ scan.opened then none else some { scan with opened := true }
  else if character = ']' then
    if !scan.opened ∨ scan.closed then none
    else some { scan with closed := true, colons := 0, percent := false }
  else if character = '@' then
    some { scan with lastIsAt := true, colons := 0, percent := false }
  else if character = '%' then
    some { scan with percent := true }
  else if isAuthorityChar character then some scan
  else none

/-- Brackets are paired, at most one colon is left for a port, and a host
follows the user information. -/
def AuthorityScan.accepts (scan : AuthorityScan) : Bool :=
  scan.opened == scan.closed && scan.colons ≤ 1 && !scan.lastIsAt && !scan.percent

/-- Cut off the authority, which may be empty, if it is well formed. -/
def readAuthority? (characters : List Char) : Option (List Char × List Char) :=
  let authority := characters.takeWhile fun c => c != '/' && c != '?' && c != '#'
  match authority.foldlM AuthorityScan.step AuthorityScan.start with
  | some scan =>
      if scan.accepts then some (authority, characters.drop authority.length) else none
  | none => none

/-- A character of a scheme. -/
def isSchemeChar (character : Char) : Bool :=
  character.isAlphanum || ['+', '-', '.', '~'].contains character

/-- What follows the scheme and `://`, if the target starts with a scheme.  The
outer `none` is a scheme that is too long. -/
def afterScheme (characters : List Char) : Option (Option (List Char)) :=
  let scheme := characters.takeWhile isSchemeChar
  match characters.drop scheme.length with
  | ':' :: '/' :: '/' :: rest => if 64 < scheme.length then none else some (some rest)
  | _ => some none

/-- The target that a text writes. -/
def parse? (text : String) : Option Target := do
  let characters := text.toList
  if text = "" ∨ sizeLimit < text.utf8ByteSize then none
  else if text = "*" then some { authority := none, path := "*", query := none }
  else if characters.head? = some '/' then
    let (path, query) ← readPath? characters
    some { authority := none, path := String.ofList path, query := query.map String.ofList }
  else
    match ← afterScheme characters with
    | none =>
        let (authority, rest) ← readAuthority? characters
        if rest = [] then
          some { authority := some (String.ofList authority), path := "", query := none }
        else
          none
    | some afterMark =>
        let (authority, rest) ← readAuthority? afterMark
        if authority = [] then none
        else
          let (path, query) ← readPath? rest
          some {
            authority := some (String.ofList authority)
            path := if path = [] then "/" else String.ofList path
            query := query.map String.ofList }

end Target

end WebHost
