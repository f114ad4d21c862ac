/-
Module: WebHost.Toml.Reader
Purpose: Reading TOML documents.
Main exports:
  Toml.readValue, Toml.parse?
-/
import WebHost.Toml.Scalar
import WebHost.Toml.Table

namespace WebHost.Toml

/-!
A document is a sequence of lines, each empty, a comment, a key with its value
or a table header.  Arrays may span lines, inline tables may not.  Containers
stand at most 79 deep, and a key has at most 79 parts.
-/

/-- One more than the greatest number of nested containers or parts of a key. -/
def nestingLimit : Nat := 80

/-- A character of a bare key. -/
def isBareChar (character : Char) : Bool :=
  character.isAlphanum || character == '-' || character == '_'

/-- One part of a key. -/
def readKeyPart (characters : List Char) : Option (String × List Char) :=
  match characters with
  | '"' :: rest => readBasic rest
  | '\'' :: rest => readLiteral rest
  | _ =>
      let bare := characters.takeWhile isBareChar
      if bare = [] then none else some (String.ofList bare, characters.drop bare.length)

/-- The parts of a key, with blanks around the dots and at both ends. -/
def readKeyParts : Nat → List Char → Option (List String × List Char)
  | 0, _ => none
  | fuel + 1, characters =>
      match readKeyPart (skipGaps characters) with
      | none => none
      | some (part, after) =>
          match skipGaps after with
          | '.' :: rest =>
              (readKeyParts fuel rest).map fun (parts, tail) => (part :: parts, tail)
          | rest => some ([part], rest)

/-- A key: the path of its dotted parts, its last part, and what follows. -/
def readKey (characters : List Char) : Option (List String × String × List Char) :=
  match readKeyParts (characters.length + 1) characters with
  | none => none
  | some (parts, rest) =>
      if nestingLimit ≤ parts.length then none
      else
        match parts.getLast? with
        | some name => some (parts.dropLast, name, rest)
        | none => none

/-- Blanks, comments and line ends, as they may stand between the items of an
array.  A comment ends with its line. -/
def skipFiller : Nat → List Char → Option (List Char)
  | 0, characters => some characters
  | fuel + 1, characters =>
      match skipGaps characters with
      | '#' :: rest =>
          match skipNewline? (rest.dropWhile isPrintable) with
          | some after => skipFiller fuel after
          | none => none
      | rest =>
          match skipNewline? rest with
          | some after => skipFiller fuel after
          | none => some rest

mutual

/-- A value inside `depth` containers, and what follows it. -/
def readValue : Nat → Nat → List Char → Option (Document × List Char)
  | 0, _, _ => none
  | fuel + 1, depth, characters =>
      match characters with
      | [] => none
      | first :: rest =>
          if first = '"' ∨ first = '\'' then
            (readString characters).map fun (value, after) => (.text value, after)
          else if first = '[' then
            if nestingLimit ≤ depth + 1 then none
            else (readItems fuel (depth + 1) rest).map fun (items, after) => (.list items, after)
          else if first = '\x7b' then
            if nestingLimit ≤ depth + 1 then none
            else
              match skipGaps rest with
              | '\x7d' :: after => some (.table [], after)
              | _ =>
                  (readInline fuel (depth + 1) [] rest).map fun (entries, after) =>
                    (.table (documentEntries entries), after)
          else if first = 't' then
            match rest with
            | 'r' :: 'u' :: 'e' :: after => some (.flag true, after)
            | _ => none
          else if first = 'f' then
            match rest with
            | 'a' :: 'l' :: 's' :: 'e' :: after => some (.flag false, after)
            | _ => none
          else readNumeric characters

/-- The items of an array up to its closing bracket; a comma may follow the
last one. -/
def readItems : Nat → Nat → List Char → Option (List Document × List Char)
  | 0, _, _ => none
  | fuel + 1, depth, characters =>
      match skipFiller fuel characters with
      | none => none
      | some (']' :: rest) => some ([], rest)
      | some start =>
          match readValue fuel depth start with
          | none => none
          | some (item, after) =>
              match skipFiller fuel after with
              | some (',' :: rest) =>
                  (readItems fuel depth rest).map fun (items, tail) => (item :: items, tail)
              | some (']' :: rest) => some ([item], rest)
              | _ => none

/-- The entries of an inline table up to its closing brace. -/
def readInline : Nat → Nat → Entries → List Char → Option (Entries × List Char)
  | 0, _, _, _ => none
  | fuel + 1, depth, entries, characters =>
      match readKey characters with
      | some (path, name, '=' :: afterKey) =>
          match readValue fuel depth (skipGaps afterKey) with
          | none => none
          | some (value, after) =>
              match assign value name path entries with
              | none => none
              | some extended =>
                  match skipGaps after with
                  | ',' :: rest => readInline fuel depth extended rest
                  | '\x7d' :: rest => some (extended, rest)
                  | _ => none
      | _ => none

end

/-- A value outside all containers. -/
def readTopValue (characters : List Char) : Option (Document × List Char) :=
  readValue (2 * characters.length + 2) 0 characters

/-- A header of a table, after its opening bracket. -/
def readHeader (builder : Builder) (characters : List Char) : Option (Builder × List Char) :=
  match characters with
  | '[' :: rest =>
      match readKey rest with
      | some (path, name, ']' :: ']' :: after) => do
          let opened ← builder.openElement path name
          let rest ← skipLineEnd? after
          some (opened, rest)
      | _ => none
  | _ =>
      match readKey characters with
      | some (path, name, ']' :: after) => do
          let opened ← builder.openTable path name
          let rest ← skipLineEnd? after
          some (opened, rest)
      | _ => none

/-- A key with its value, up to the end of the line. -/
def readDefinition (builder : Builder) (characters : List Char) :
    Option (Builder × List Char) :=
  match readKey characters with
  | some (path, name, '=' :: afterKey) => do
      let (value, after) ← readTopValue (skipGaps afterKey)
      let rest ← skipLineEnd? after
      let extended ← builder.define path name value
      some (extended, rest)
  | _ => none

/-- The statements of a document. -/
def readStatements : Nat → Builder → List Char → Option Builder
  | 0, _, _ => none
  | fuel + 1, builder, characters =>
      match skipGaps characters with
      | [] => some builder
      | '#' :: rest =>
          match skipLineEnd? ('#' :: rest) with
          | some after => readStatements fuel builder after
          | none => none
      | '[' :: rest =>
          match readHeader builder rest with
          | some (opened, after) => readStatements fuel opened after
          | none => none
      | rest =>
          match skipNewline? rest with
          | some after => readStatements fuel builder after
          | none =>
              match readDefinition builder rest with
              | some (extended, after) => readStatements fuel extended after
              | none => none

/-- The document that a text writes; a byte order mark may stand before it. -/
def parse? (text : String) : Option Document := do
  let characters := match text.toList with
    | '\uFEFF' :: rest => rest
    | rest => rest
  let builder ← readStatements (characters.length + 1) .start characters
  let entries ← builder.close
  some (.table (documentEntries entries))

end WebHost.Toml
