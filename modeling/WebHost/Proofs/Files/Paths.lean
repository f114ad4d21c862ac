/-
Module: WebHost.Proofs.Files.Paths
Purpose: What a path with further parts names, in terms of the place that the
  path itself names.
Main exports:
  IsEntryName, FileNode.descend?, FileSystem.nodeAt?, pathParts_joinPart,
  Location.pathParts_text, FileSystem.nodeAt?_text, FileSystem.locate_eq_ok_iff,
  FileSystem.locate_text_congr
-/
import WebHost.Files.Resource

namespace WebHost

open Text

/-!
A path is looked up in two stages that are kept apart here.  Its parts lead
through the tree, which `nodeAt?` follows; the text itself may still be refused,
because of its length, of a character in it, or of a slash after a file name.

A part that is an entry name moves down by one entry and cannot move anywhere
else.  So a path that continues another one by entry names leads to a node
below the one that the other path leads to.
-/

/-- A part that can only name an entry of the directory it is met in. -/
structure IsEntryName (part : String) : Prop where
  nonempty : part ≠ ""
  noSlash : '/' ∉ part.toList
  notDot : part ≠ "."
  notParent : part ≠ ".."

/-! ### Parts of a path text -/

theorem splitOn_entryName {part : String} (named : IsEntryName part) :
    part.toList.splitOn '/' = [part.toList] :=
  List.splitOn_eq_singleton named.noSlash

/-- Nothing but the empty text and texts with a slash at the end are continued
without a further slash. -/
theorem joinPart_eq (path part : String) :
    (path = "" ∧ joinPart path part = part) ∨
      (∃ before, path.toList = before ++ ['/'] ∧
        (joinPart path part).toList = before ++ '/' :: part.toList) ∨
      (path ≠ "" ∧ (joinPart path part).toList = path.toList ++ '/' :: part.toList) := by
  unfold joinPart
  by_cases empty : path = ""
  · exact Or.inl ⟨empty, by simp [empty]⟩
  · by_cases slash : path.toList.getLast? = some '/'
    · obtain ⟨before, ends⟩ := List.getLast?_eq_some_iff.1 slash
      exact Or.inr (Or.inl ⟨before, ends, by simp [ends]⟩)
    · exact Or.inr (Or.inr ⟨empty, by simp [empty, slash]⟩)

/-- The pieces of a continued path are those of the path, a last empty one
apart, and the part. -/
theorem splitOn_joinPart (path : String) {part : String} (named : IsEntryName part) :
    ∃ pieces, (joinPart path part).toList.splitOn '/' = pieces ++ [part.toList] ∧
      (path.toList.splitOn '/' = pieces ∨ path.toList.splitOn '/' = pieces ++ [[]]) := by
  rcases joinPart_eq path part with ⟨rfl, joined⟩ | ⟨before, ends, joined⟩ | ⟨_, joined⟩
  · refine ⟨[], ?_, Or.inr (by simp)⟩
    rw [joined, splitOn_entryName named, List.nil_append]
  · refine ⟨before.splitOn '/', ?_, Or.inr ?_⟩
    · rw [joined, List.splitOn_append_cons_self, splitOn_entryName named]
    · rw [ends, List.splitOn_append_cons_self, List.splitOn_nil]
  · refine ⟨path.toList.splitOn '/', ?_, Or.inl rfl⟩
    rw [joined, List.splitOn_append_cons_self, splitOn_entryName named]

/-- An entry name adds itself to the parts of a path. -/
theorem pathParts_joinPart (path : String) {part : String} (named : IsEntryName part) :
    pathParts (joinPart path part) = pathParts path ++ [part] := by
  obtain ⟨pieces, joined, alone⟩ := splitOn_joinPart path named
  unfold pathParts
  rw [joined, List.map_append, List.filter_append]
  rcases alone with same | same <;>
    simp [same, named.nonempty, named.notDot]

/-- An entry name leaves a relative path relative and an absolute one absolute. -/
theorem head?_joinPart (path : String) {part : String} (named : IsEntryName part) :
    (joinPart path part).toList.head? = some '/' ↔ path.toList.head? = some '/' := by
  rcases joinPart_eq path part with ⟨rfl, joined⟩ | ⟨before, ends, joined⟩ | ⟨filled, joined⟩
  · rw [joined]
    constructor
    · intro starts
      exact absurd (List.mem_of_mem_head? starts) named.noSlash
    · intro starts
      simp at starts
  · rw [joined, ends]
    cases before <;> simp
  · rw [joined]
    cases characters : path.toList with
    | nil => exact absurd (String.toList_eq_nil_iff.1 characters) filled
    | cons first rest => simp

/-! ### Texts of locations -/

namespace Location

/-- The parts of a location below its root, entry names all of them. -/
def Plain (location : Location) : Prop :=
  ∀ part ∈ location.parts, IsEntryName part

/-- The parts of the text are those of the root and then those below it. -/
theorem pathParts_text {location : Location} (plain : location.Plain) :
    pathParts location.text = pathParts location.root ++ location.parts := by
  obtain ⟨root, parts⟩ := location
  simp only [Plain, text] at plain ⊢
  induction parts generalizing root with
  | nil => simp
  | cons part rest ih =>
      have named : IsEntryName part := plain part (by simp)
      have below : ∀ other ∈ rest, IsEntryName other :=
        fun other member => plain other (by simp [member])
      rw [List.foldl_cons, ih (joinPart root part) below, pathParts_joinPart root named]
      simp

theorem head?_text {location : Location} (plain : location.Plain) :
    location.text.toList.head? = some '/' ↔ location.root.toList.head? = some '/' := by
  obtain ⟨root, parts⟩ := location
  simp only [Plain, text] at plain ⊢
  induction parts generalizing root with
  | nil => simp
  | cons part rest ih =>
      have named : IsEntryName part := plain part (by simp)
      have below : ∀ other ∈ rest, IsEntryName other :=
        fun other member => plain other (by simp [member])
      rw [List.foldl_cons, ih (joinPart root part) below, head?_joinPart root named]

end Location

/-! ### Places in the tree -/

/-- The node that entry names lead to, downwards only. -/
def FileNode.descend? : List String → FileNode → Option FileNode
  | [], node => some node
  | name :: rest, node => (node.child name).toOption.bind (descend? rest)

/-- The node is a directory. -/
def FileNode.isDirectory : FileNode → Bool
  | .directory _ => true
  | _ => false

namespace FileSystem

/-- The node from which a path is followed, with its ancestors. -/
def origin? (files : FileSystem) (path : String) : Option (List FileNode × FileNode) :=
  if path.toList.head? = some '/' then some ([], files.root)
  else (walk files.working [] files.root).toOption

/-- The node that the parts of a path lead to. -/
def nodeAt? (files : FileSystem) (path : String) : Option FileNode :=
  ((files.origin? path).bind fun start =>
    (walk (pathParts path) start.1 start.2).toOption).map (·.2)

/-- A walk can be made in two stretches. -/
theorem walk_append (parts more : List String) (ancestors : List FileNode) (current : FileNode) :
    walk (parts ++ more) ancestors current =
      (walk parts ancestors current).bind fun place => walk more place.1 place.2 := by
  induction parts generalizing ancestors current with
  | nil => rfl
  | cons part rest ih =>
      cases current with
      | directory entries =>
          by_cases up : part = ".."
          · cases ancestors <;> simp [walk, up, ih]
          · cases found : FileNode.child (.directory entries) part with
            | ok node => simp [walk, up, found, ih, bind, Except.bind]
            | error reason => simp [walk, up, found, bind, Except.bind]
      | file content => rfl
      | device => rfl

/-- Entry names lead downwards, whatever the ancestors are. -/
theorem walk_entryNames {parts : List String} (plain : ∀ part ∈ parts, IsEntryName part)
    (ancestors : List FileNode) (current : FileNode) :
    (walk parts ancestors current).toOption.map (·.2) = current.descend? parts := by
  induction parts generalizing ancestors current with
  | nil => rfl
  | cons part rest ih =>
      have down : part ≠ ".." := (plain part (by simp)).notParent
      have below : ∀ other ∈ rest, IsEntryName other :=
        fun other member => plain other (by simp [member])
      cases current with
      | directory entries =>
          cases found : FileNode.child (.directory entries) part with
          | ok node =>
              simp only [walk, down, if_false, found, bind, Except.bind, FileNode.descend?]
              exact ih below _ node
          | error reason =>
              simp [walk, down, found, bind, Except.bind, FileNode.descend?, Except.toOption]
      | file content => rfl
      | device => rfl

/-- What a location names lies below what its root names. -/
theorem nodeAt?_text (files : FileSystem) {location : Location} (plain : location.Plain) :
    files.nodeAt? location.text =
      (files.nodeAt? location.root).bind (·.descend? location.parts) := by
  have sameOrigin : files.origin? location.text = files.origin? location.root := by
    simp only [origin?, Location.head?_text plain]
  unfold nodeAt?
  rw [sameOrigin, Location.pathParts_text plain]
  cases files.origin? location.root with
  | none => rfl
  | some start =>
      simp only [Option.bind_some, walk_append]
      cases walk (pathParts location.root) start.1 start.2 with
      | error reason => rfl
      | ok place => exact walk_entryNames plain place.1 place.2

/-- A text that may name a place at all. -/
structure IsPathText (path : String) : Prop where
  noNul : '\x00' ∉ path.toList
  nonempty : path ≠ ""
  short : path.utf8ByteSize ≤ pathLimit

/-- The node that a walk has found is what the path names, unless the text asks
for a directory where there is none. -/
theorem settle_eq_ok_iff {asksDirectory : Bool} {found node : FileNode} :
    (match found with
      | .directory _ => Except.ok found
      | _ => if asksDirectory then .error FileError.notDirectory else .ok found) = .ok node ↔
      found = node ∧ (asksDirectory = true → node.isDirectory = true) := by
  cases found <;> cases asksDirectory <;> simp [FileNode.isDirectory] <;>
    (intro same; simp [← same])

/-- A path that is followed from its origin names the node that its parts lead
to. -/
theorem locate_of_isPathText {files : FileSystem} {path : String} (legal : IsPathText path)
    (node : FileNode) :
    files.locate path = .ok node ↔
      files.nodeAt? path = some node ∧
        (namesDirectory path = true → node.isDirectory = true) := by
  have noNul : path.toList.contains '\x00' = false := by simpa using legal.noNul
  have short : ¬ pathLimit < path.utf8ByteSize := Nat.not_lt.2 legal.short
  simp only [locate, noNul, legal.nonempty, short, nodeAt?, origin?, bind, Except.bind]
  by_cases absolute : path.toList.head? = some '/'
  · simp only [absolute, if_true, Option.bind_some]
    cases walk (pathParts path) [] files.root with
    | error reason => simp [Except.toOption]
    | ok place =>
        simp only [Except.toOption, Option.map_some, Option.some.injEq]
        exact settle_eq_ok_iff
  · simp only [absolute, if_false]
    cases walk files.working [] files.root with
    | error reason => simp [Except.toOption]
    | ok start =>
        simp only [Except.toOption, Option.bind_some]
        cases walk (pathParts path) start.1 start.2 with
        | error reason => simp
        | ok place =>
            simp only [Option.map_some, Option.some.injEq]
            exact settle_eq_ok_iff

/-- A path names the node that its parts lead to, unless its text is refused or
asks for a directory where there is none. -/
theorem locate_eq_ok_iff {files : FileSystem} {path : String} {node : FileNode} :
    files.locate path = .ok node ↔
      IsPathText path ∧ files.nodeAt? path = some node ∧
        (namesDirectory path = true → node.isDirectory = true) := by
  by_cases legal : IsPathText path
  · rw [locate_of_isPathText legal]
    simp [legal]
  · have refused : files.locate path ≠ .ok node := by
      intro located
      apply legal
      unfold locate at located
      split at located
      · simp at located
      · split at located
        · cases located
        · split at located
          · cases located
          · rename_i noNul nonempty short
            exact ⟨by simpa using noNul, nonempty, Nat.not_lt.1 short⟩
    simp [legal, refused]

theorem isFile_iff {files : FileSystem} {path : String} :
    files.isFile path = true ↔ ∃ content, files.locate path = .ok (.file content) := by
  unfold isFile
  split
  · rename_i content located
    simp [located]
  · rename_i other
    simp only [Bool.false_eq_true, false_iff, not_exists]
    exact fun content located => other content located

theorem isDirectory_iff {files : FileSystem} {path : String} :
    files.isDirectory path = true ↔ ∃ entries, files.locate path = .ok (.directory entries) := by
  unfold isDirectory
  split
  · rename_i entries located
    simp [located]
  · rename_i other
    simp only [Bool.false_eq_true, false_iff, not_exists]
    exact fun entries located => other entries located

theorem read_eq_ok_iff {files : FileSystem} {path : String} {content : Bytes} :
    files.read path = .ok content ↔
      files.locate path = .ok (.file (some content)) ∨
        (files.locate path = .ok .device ∧ content = []) := by
  unfold read
  cases located : files.locate path with
  | error reason => simp
  | ok node =>
      cases node with
      | file held => cases held <;> simp
      | directory entries => simp
      | device => simp [eq_comm]

theorem toOption_eq_some_iff {ε α : Type} {result : Except ε α} {value : α} :
    result.toOption = some value ↔ result = .ok value := by
  cases result <;> simp [Except.toOption]

/-- No path names both. -/
theorem not_isFile_of_isDirectory {files : FileSystem} {path : String}
    (directory : files.isDirectory path = true) : files.isFile path = false := by
  obtain ⟨entries, located⟩ := isDirectory_iff.1 directory
  simp [isFile, located]

/-! ### Two trees that agree below a root -/

section Agreement

variable {files other : FileSystem} {location : Location}

/-- What a location names depends on the tree only through what its root names. -/
theorem locate_text_congr (plain : location.Plain)
    (same : files.nodeAt? location.root = other.nodeAt? location.root) (node : FileNode) :
    files.locate location.text = .ok node ↔ other.locate location.text = .ok node := by
  rw [locate_eq_ok_iff, locate_eq_ok_iff, nodeAt?_text files plain, nodeAt?_text other plain, same]

theorem isFile_text_congr (plain : location.Plain)
    (same : files.nodeAt? location.root = other.nodeAt? location.root) :
    files.isFile location.text = other.isFile location.text := by
  rw [Bool.eq_iff_iff, isFile_iff, isFile_iff]
  simp only [locate_text_congr plain same]

theorem isDirectory_text_congr (plain : location.Plain)
    (same : files.nodeAt? location.root = other.nodeAt? location.root) :
    files.isDirectory location.text = other.isDirectory location.text := by
  rw [Bool.eq_iff_iff, isDirectory_iff, isDirectory_iff]
  simp only [locate_text_congr plain same]

theorem read_text_congr (plain : location.Plain)
    (same : files.nodeAt? location.root = other.nodeAt? location.root) :
    (files.read location.text).toOption = (other.read location.text).toOption := by
  apply Option.ext
  intro content
  rw [toOption_eq_some_iff, toOption_eq_some_iff, read_eq_ok_iff, read_eq_ok_iff]
  simp only [locate_text_congr plain same]

end Agreement

end FileSystem

end WebHost
