/-
Module: WebHost.Files.Tree
Purpose: A tree of files and how path texts name places in it.
Main exports:
  FileNode, FileError, FileSystem, FileSystem.locate, FileSystem.isFile, FileSystem.isDirectory,
  FileSystem.read, FileSystem.put, pathParts, extensionOf
-/
import WebHost.Text.Ascii
import WebHost.Text.Utf8

namespace WebHost

open Text

/-!
A file system is a tree of directories without links, and a working directory
from which relative paths start.  A path text is walked part by part: empty
parts and `.` stay where they are, `..` goes up one directory, any other part
names an entry of the current directory.  A path that ends in a slash or in
`.` names a directory or nothing.
-/

/-- A place in the tree.  A file whose content cannot be read has none. -/
inductive FileNode where
  | file (content : Option Bytes)
  | directory (entries : List (String × FileNode))
  | device
deriving Repr, Inhabited

/-- Why a path leads to nothing that could be used. -/
inductive FileError where
  | notFound
  | notDirectory
  | isDirectory
  | nameTooLong
  | illegalPath
  | notText
  | unreadable
deriving Repr, Inhabited, DecidableEq

/-- The name of this kind of error in reports. -/
def FileError.kind : FileError → String
  | .notFound => "NotFound"
  | .notDirectory => "NotADirectory"
  | .isDirectory => "IsADirectory"
  | .nameTooLong => "InvalidFilename"
  | .illegalPath => "InvalidInput"
  | .notText => "InvalidData"
  | .unreadable => "PermissionDenied"

namespace FileNode

/-- The entry of a directory with this name. -/
def child (node : FileNode) (name : String) : Except FileError FileNode :=
  match node with
  | .directory entries =>
      if 255 < name.utf8ByteSize then .error .nameTooLong
      else match entries.lookup name with
        | some found => .ok found
        | none => .error .notFound
  | _ => .error .notDirectory

/-- Replace the entry of this name among some entries, or add it. -/
def replaceEntry (name : String) (node : FileNode) :
    List (String × FileNode) → List (String × FileNode)
  | [] => [(name, node)]
  | (first, old) :: rest =>
      if first = name then (name, node) :: rest
      else (first, old) :: replaceEntry name node rest

/-- Put a node at the end of a walk through directories, which are made where
they are missing. -/
def graft (node : FileNode) : List String → FileNode → FileNode
  | [], _ => node
  | name :: rest, .directory entries =>
      let below := (entries.lookup name).getD (.directory [])
      .directory (replaceEntry name (graft node rest below) entries)
  | name :: rest, _ => .directory [(name, graft node rest (.directory []))]

end FileNode

/-- A tree of files and the directory from which relative paths start, which is
given by the names on the way to it. -/
structure FileSystem where
  root : FileNode
  working : List String
deriving Repr, Inhabited

/-- The parts of a path text that move: neither empty nor `.`. -/
def pathParts (path : String) : List String :=
  ((path.toList.splitOn '/').map String.ofList).filter fun part => part ≠ "" && part ≠ "."

/-- The path can only name a directory. -/
def namesDirectory (path : String) : Bool :=
  match ((path.toList.splitOn '/').map String.ofList).getLast? with
  | some last => last = "" || last = "."
  | none => false

/-- The greatest size of a path text, in bytes. -/
def pathLimit : Nat := 4095

namespace FileSystem

/-- Follow the parts of a path from a node, whose ancestors are given, nearest
first. -/
def walk : List String → List FileNode → FileNode → Except FileError (List FileNode × FileNode)
  | [], ancestors, current => .ok (ancestors, current)
  | part :: rest, ancestors, current =>
      match current with
      | .directory entries =>
          if part = ".." then
            match ancestors with
            | [] => walk rest [] current
            | parent :: above => walk rest above parent
          else do
            let found ← FileNode.child (.directory entries) part
            walk rest (current :: ancestors) found
      | _ => .error .notDirectory

/-- The place that a path names. -/
def locate (files : FileSystem) (path : String) : Except FileError FileNode := do
  if path.toList.contains '\x00' then
    throw .illegalPath
  else if path = "" then
    throw .notFound
  else if pathLimit < path.utf8ByteSize then
    throw .nameTooLong
  else
    let start ←
      if path.toList.head? = some '/' then .ok ([], files.root)
      else walk files.working [] files.root
    let (_, found) ← walk (pathParts path) start.1 start.2
    match found with
    | .directory _ => .ok found
    | _ => if namesDirectory path then throw .notDirectory else .ok found

/-- The path names a regular file. -/
def isFile (files : FileSystem) (path : String) : Bool :=
  match files.locate path with
  | .ok (.file _) => true
  | _ => false

/-- The path names a directory. -/
def isDirectory (files : FileSystem) (path : String) : Bool :=
  match files.locate path with
  | .ok (.directory _) => true
  | _ => false

/-- The content of the file that a path names. -/
def read (files : FileSystem) (path : String) : Except FileError Bytes :=
  match files.locate path with
  | .ok (.file (some content)) => .ok content
  | .ok (.file none) => .error .unreadable
  | .ok (.directory _) => .error .isDirectory
  | .ok .device => .ok []
  | .error reason => .error reason

/-- The text of the file that a path names. -/
def readText (files : FileSystem) (path : String) : Except FileError String := do
  let content ← files.read path
  match decode? content with
  | some text => .ok text
  | none => .error .notText

/-- Put a node at a place given by names from the working directory on. -/
def put (files : FileSystem) (names : List String) (node : FileNode) : FileSystem :=
  { files with root := FileNode.graft node (files.working ++ names) files.root }

end FileSystem

/-- The extension of the file that a path names: what follows the last dot of
its name, unless that dot is the first character. -/
def extensionOf (path : String) : String :=
  match (pathParts path).getLast? with
  | none => ""
  | some ".." => ""
  | some name =>
      match cutAtLast '.' name.toList with
      | some (_ :: _, extension) => String.ofList extension
      | _ => ""

end WebHost
