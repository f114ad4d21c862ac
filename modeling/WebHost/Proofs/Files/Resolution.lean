/-
Module: WebHost.Proofs.Files.Resolution
Purpose: The order in which a path resolves, and what has no part in it.
Main exports:
  Spells, spells_iff, DirectFile, FallbackFile, Resolution, resolve?_of_directFile,
  resolution_resolve?, Resolution.unique, OwnFile, resolution_follows_order
-/
import WebHost.Proofs.Files.Containment
import WebHost.Proofs.Files.NameSet

namespace WebHost

open Text

/-!
The order is stated over the components of a path, without a word on how they
are spelled, and over the members of a set, without a word on how they are kept:
the file itself, the index page of the directory, the first name that leads to a
file.  Resolution is shown to be that and nothing else, so that spellings, the
order of names and names that come too late have no part in it.
-/

/-! ### The order -/

/-- A path spells these components: they are what stands between its slashes, apart
from nothing and from a single dot. -/
def Spells (path : String) (components : List String) : Prop :=
  PiecesOf '/' (fun piece => piece ≠ [] ∧ piece ≠ ['.']) path components

section Order

variable (files : FileSystem) (root : String) (components : List String)

/-- What components lead to by themselves: the file that they name, if there are any
of them, or the index page in the directory that they name. -/
inductive DirectFile : Location → Prop where
  | itself (down : ".." ∉ components) (below : components ≠ [])
      (file : files.isFile (Location.mk root components).text = true) :
      DirectFile (Location.mk root components)
  | index (down : ".." ∉ components)
      (directory : files.isDirectory (Location.mk root components).text = true)
      (file : files.isFile (Location.mk root (components ++ [indexFile])).text = true) :
      DirectFile (Location.mk root (components ++ [indexFile]))

/-- What components lead to with a name after them: the file that both name together. -/
inductive FallbackFile (name : String) : Location → Prop where
  | joined (below : List String) (spelled : Spells name below) (down : ".." ∉ below)
      (file : files.isFile (Location.mk root (components ++ below)).text = true) :
      FallbackFile name (Location.mk root (components ++ below))

/-- What components resolve to with a set of names, in this order: nothing if they go
up; what they lead to by themselves; what they lead to with the first of the
names, in the order of their bytes, with which they lead to anything; nothing. -/
inductive Resolution (names : List String) : Option Location → Prop where
  | goesUp (up : ".." ∈ components) : Resolution names none
  | direct (location : Location) (found : DirectFile files root components location) :
      Resolution names (some location)
  | fallback (name : String) (location : Location) (down : ".." ∉ components)
      (undirect : ∀ other, ¬ DirectFile files root components other) (listed : name ∈ names)
      (found : FallbackFile files root components name location)
      (first : ∀ earlier ∈ names, encode earlier < encode name →
        ∀ other, ¬ FallbackFile files root components earlier other) :
      Resolution names (some location)
  | nothing (down : ".." ∉ components)
      (undirect : ∀ other, ¬ DirectFile files root components other)
      (unfound : ∀ name ∈ names, ∀ other, ¬ FallbackFile files root components name other) :
      Resolution names none

end Order

/-! ### Components -/

/-- Every path spells its components, and no others. -/
theorem spells_iff {path : String} {components : List String} :
    Spells path components ↔ pathParts path = components := by
  have kept : (fun part : String => part ≠ "" && part ≠ ".") ∘ String.ofList =
      fun piece => decide (piece ≠ [] ∧ piece ≠ ['.']) := by
    funext piece
    have empty : String.ofList piece = "" ↔ piece = [] := String.ofList_eq_empty_iff
    have dot : String.ofList piece = "." ↔ piece = ['.'] :=
      ⟨fun same => String.ofList_injective same, fun same => same ▸ rfl⟩
    simp [empty, dot]
  unfold Spells
  rw [piecesOf_iff, pathParts, List.filter_map, kept]

variable {files : FileSystem} {root path : String} {components names : List String}

/-- Resolution looks at the components of a path only. -/
theorem resolve?_of_spells {other : String} (spelled : Spells path components)
    (alike : Spells other components) :
    resolve? files root other names = resolve? files root path names := by
  have same : pathParts other = pathParts path :=
    (spells_iff.1 alike).trans (spells_iff.1 spelled).symm
  unfold resolve? relativeParts?
  rw [same]

/-! ### Stages -/

/-- The file that a place leads to with a name after it. -/
def fallback? (files : FileSystem) (root : String) (components : List String) (name : String) :
    Option Location :=
  match relativeParts? name with
  | none => none
  | some below =>
      let candidate : Location := { root := root, parts := components ++ below }
      if files.isFile candidate.text then some candidate else none

theorem fallback?_eq_some_iff {name : String} {location : Location} :
    fallback? files root components name = some location ↔
      FallbackFile files root components name location := by
  unfold fallback?
  constructor
  · intro found
    cases relative : relativeParts? name with
    | none => simp [relative] at found
    | some below =>
        obtain ⟨parts, down⟩ := relativeParts?_eq_some_iff.1 relative
        simp only [relative, Option.ite_none_right_eq_some] at found
        obtain ⟨file, same⟩ := found
        cases same
        exact .joined below (spells_iff.2 parts.symm) down file
  · rintro ⟨below, spelled, down, file⟩
    have relative := relativeParts?_eq_some_iff.2 ⟨(spells_iff.1 spelled).symm, down⟩
    simp only [relative, file, if_true]

theorem fallback?_eq_none_iff {name : String} :
    fallback? files root components name = none ↔
      ∀ location, ¬ FallbackFile files root components name location := by
  rw [Option.eq_none_iff_forall_ne_some]
  exact forall_congr' fun location => not_congr fallback?_eq_some_iff

/-- The stages of a path that does not go up. -/
theorem resolve?_eq_stages (down : ".." ∉ components) (spelled : Spells path components) :
    resolve? files root path names =
      if components ≠ [] ∧ files.isFile (Location.mk root components).text then
        some (Location.mk root components)
      else if files.isDirectory (Location.mk root components).text ∧
          files.isFile (Location.mk root (components ++ [indexFile])).text then
        some (Location.mk root (components ++ [indexFile]))
      else names.findSome? (fallback? files root components) := by
  have relative : relativeParts? path = some components :=
    relativeParts?_eq_some_iff.2 ⟨(spells_iff.1 spelled).symm, down⟩
  unfold resolve?
  rw [relative]
  rfl

theorem resolve?_of_up (up : ".." ∈ components) (spelled : Spells path components) :
    resolve? files root path names = none := by
  have relative : relativeParts? path = none := by
    unfold relativeParts?
    rw [spells_iff.1 spelled]
    simp [up]
  unfold resolve?
  rw [relative]

theorem DirectFile.down {location : Location}
    (found : DirectFile files root components location) : ".." ∉ components := by
  cases found with
  | itself down below file => exact down
  | index down directory file => exact down

/-- What components lead to by themselves is found whatever the names are. -/
theorem resolve?_of_directFile {location : Location}
    (found : DirectFile files root components location) (spelled : Spells path components) :
    resolve? files root path names = some location := by
  rw [resolve?_eq_stages found.down spelled]
  cases found with
  | itself down below file => rw [if_pos ⟨below, file⟩]
  | index down directory file =>
      have noFile := FileSystem.not_isFile_of_isDirectory directory
      rw [if_neg (by simp [noFile]), if_pos ⟨directory, file⟩]

/-- Without that, the names are gone through one by one. -/
theorem resolve?_of_undirect (undirect : ∀ other, ¬ DirectFile files root components other)
    (down : ".." ∉ components) (spelled : Spells path components) :
    resolve? files root path names = names.findSome? (fallback? files root components) := by
  rw [resolve?_eq_stages down spelled, if_neg, if_neg]
  · exact fun ⟨directory, file⟩ => undirect _ (.index down directory file)
  · exact fun ⟨below, file⟩ => undirect _ (.itself down below file)

/-- Names in the order of their bytes are found in that order. -/
theorem resolution_resolve? (sorted : NameSet.Increasing names)
    (spelled : Spells path components) :
    Resolution files root components names (resolve? files root path names) := by
  by_cases up : ".." ∈ components
  · rw [resolve?_of_up up spelled]
    exact .goesUp up
  by_cases direct : ∃ location, DirectFile files root components location
  · obtain ⟨location, found⟩ := direct
    rw [resolve?_of_directFile found spelled]
    exact .direct location found
  have undirect : ∀ other, ¬ DirectFile files root components other := not_exists.1 direct
  rw [resolve?_of_undirect undirect up spelled]
  cases searched : names.findSome? (fallback? files root components) with
  | none =>
      refine .nothing up undirect fun name listed => ?_
      exact fallback?_eq_none_iff.1 (List.findSome?_eq_none_iff.1 searched name listed)
  | some location =>
      obtain ⟨before, name, after, split, found, missed⟩ :=
        List.findSome?_eq_some_iff.1 searched
      subst split
      refine .fallback name location up undirect (by simp) (fallback?_eq_some_iff.1 found) ?_
      intro earlier listed less
      -- A name with smaller bytes stands among those that were tried before.
      obtain ⟨-, later, -⟩ := List.pairwise_append.1 sorted
      rcases List.mem_append.1 listed with tried | untried
      · exact fallback?_eq_none_iff.1 (missed earlier tried)
      · rcases List.mem_cons.1 untried with rfl | behind
        · exact absurd less (List.lt_irrefl _)
        · exact absurd less (List.lt_asymm ((List.pairwise_cons.1 later).1 earlier behind))

/-! ### One result -/

theorem FallbackFile.unique {name : String} {one other : Location}
    (first : FallbackFile files root components name one)
    (second : FallbackFile files root components name other) : one = other :=
  Option.some.inj
    ((fallback?_eq_some_iff.2 first).symm.trans (fallback?_eq_some_iff.2 second))

theorem DirectFile.unique {one other : Location}
    (first : DirectFile files root components one)
    (second : DirectFile files root components other) : one = other := by
  cases first with
  | itself down below file =>
      cases second with
      | itself => rfl
      | index _ directory _ =>
          rw [FileSystem.not_isFile_of_isDirectory directory] at file
          cases file
  | index down directory page =>
      cases second with
      | itself _ _ file =>
          rw [FileSystem.not_isFile_of_isDirectory directory] at file
          cases file
      | index => rfl

/-- The order leaves no choice. -/
theorem Resolution.unique {one other : Option Location}
    (first : Resolution files root components names one)
    (second : Resolution files root components names other) : one = other := by
  cases first with
  | goesUp up =>
      cases second with
      | goesUp => rfl
      | direct location found => exact absurd up found.down
      | fallback _ _ down => exact absurd up down
      | nothing => rfl
  | direct location found =>
      cases second with
      | goesUp up => exact absurd up found.down
      | direct again same => rw [found.unique same]
      | fallback _ _ _ undirect => exact absurd found (undirect location)
      | nothing _ undirect => exact absurd found (undirect location)
  | fallback name location down undirect listed found least =>
      cases second with
      | goesUp up => exact absurd up down
      | direct again same => exact absurd same (undirect again)
      | fallback twin again _ _ among same less =>
          by_cases before : encode name < encode twin
          · exact absurd found (less name listed before location)
          · by_cases after : encode twin < encode name
            · exact absurd same (least twin among after again)
            · have alike : name = twin :=
                encode_injective (List.le_antisymm (List.not_lt.1 after) (List.not_lt.1 before))
              subst alike
              rw [found.unique same]
      | nothing _ _ unfound => exact absurd found (unfound name listed location)
  | nothing down undirect unfound =>
      cases second with
      | goesUp => rfl
      | direct again same => exact absurd same (undirect again)
      | fallback name again _ _ among same => exact absurd same (unfound name among again)
      | nothing => rfl

/-- Resolution is the order, and nothing else. -/
theorem resolve?_eq_iff {found : Option Location} (sorted : NameSet.Increasing names)
    (spelled : Spells path components) :
    resolve? files root path names = found ↔ Resolution files root components names found := by
  have own : Resolution files root components names (resolve? files root path names) :=
    resolution_resolve? sorted spelled
  constructor
  · rintro rfl
    exact own
  · exact own.unique

theorem Resolution.congr {others : List String} {found : Option Location}
    (same : ∀ name, name ∈ others ↔ name ∈ names)
    (resolved : Resolution files root components names found) :
    Resolution files root components others found := by
  cases resolved with
  | goesUp up => exact .goesUp up
  | direct location found => exact .direct location found
  | fallback name location down undirect listed found first =>
      exact .fallback name location down undirect ((same name).2 listed) found
        fun earlier among => first earlier ((same earlier).1 among)
  | nothing down undirect unfound =>
      exact .nothing down undirect fun name listed => unfound name ((same name).1 listed)

/-! ### Further names -/

/-- The place that components name, or the index page in it if it is a directory. -/
def OwnFile (files : FileSystem) (root : String) (components : List String)
    (location : Location) : Prop :=
  location = Location.mk root components ∨
    files.isDirectory (Location.mk root components).text = true ∧
      location = Location.mk root (components ++ [indexFile])

/-- Nothing lies below a file. -/
theorem eq_nil_of_isFile {below : List String} (file : files.isFile root = true)
    (plain : ∀ part ∈ below, IsEntryName part)
    (further : files.isFile (Location.mk root below).text = true) : below = [] := by
  obtain ⟨content, located⟩ := FileSystem.isFile_iff.1 file
  obtain ⟨other, found⟩ := FileSystem.isFile_iff.1 further
  have above := (FileSystem.locate_eq_ok_iff.1 located).2.1
  have node := (FileSystem.locate_eq_ok_iff.1 found).2.1
  have place : (Location.mk root below).Plain := plain
  rw [FileSystem.nodeAt?_text files place, above] at node
  cases below with
  | nil => rfl
  | cons part rest => cases node

/-- So a root that is a file leads to itself with every name that leads anywhere. -/
theorem FallbackFile.eq_root {name : String} {location : Location}
    (file : files.isFile root = true) (found : FallbackFile files root [] name location) :
    location = Location.mk root [] := by
  obtain ⟨below, spelled, down, further⟩ := found
  have plain : ∀ part ∈ below, IsEntryName part := by
    intro part member
    rw [← spells_iff.1 spelled] at member down
    exact isEntryName_of_mem_pathParts member fun up => down (up ▸ member)
  rw [List.nil_append] at further ⊢
  rw [eq_nil_of_isFile file plain further]

/-- A path that has resolved to its own file keeps it when a name is added. -/
theorem resolve?_insert {set : NameSet} (sorted : NameSet.Increasing set.names)
    (spelled : Spells path components) {location : Location}
    (own : OwnFile files root components location)
    (resolved : resolve? files root path set.names = some location) (name : String) :
    resolve? files root path (set.insert name).names = some location := by
  have down : ".." ∉ components := by
    intro up
    rw [resolve?_of_up up spelled] at resolved
    cases resolved
  obtain ⟨-, -, file⟩ := resolve?_spec resolved
  by_cases direct : DirectFile files root components location
  · exact resolve?_of_directFile direct spelled
  -- All that is left is a root that is a file, with a name that adds nothing to it.
  have bare : components = [] ∧ location = Location.mk root [] := by
    rcases own with rfl | ⟨directory, rfl⟩
    · by_cases empty : components = []
      · exact ⟨empty, by rw [empty]⟩
      · exact absurd (.itself down empty file) direct
    · exact absurd (.index down directory file) direct
  obtain ⟨rfl, rfl⟩ := bare
  have rootFile : files.isFile root = true := file
  have wider : ∀ other, other ∈ (set.insert name).names ↔ other = name ∨ other ∈ set.names :=
    fun other => NameSet.mem_insertName
  have grown : NameSet.Increasing (set.insert name).names := NameSet.increasing_insertName sorted
  have before := (resolve?_eq_iff sorted spelled).1 resolved
  have after : Resolution files root [] (set.insert name).names
      (resolve? files root path (set.insert name).names) := resolution_resolve? grown spelled
  generalize resolve? files root path (set.insert name).names = result at after ⊢
  cases after with
  | goesUp up => exact absurd up down
  | direct other found =>
      cases found with
      | itself _ below _ => exact absurd rfl below
      | index _ directory _ =>
          rw [FileSystem.not_isFile_of_isDirectory directory] at file
          cases file
  | fallback other place _ _ _ found _ => rw [found.eq_root rootFile]
  | nothing _ _ unfound =>
      cases before with
      | direct _ found => exact absurd found direct
      | fallback other _ _ _ listed found _ =>
          exact absurd found (unfound other ((wider other).2 (.inr listed)) _)

/-- Resolution is the documented order.  A path has components, whatever its spelling,
and resolves to what the order says for them and for the members of the set, and
to nothing else; so it resolves as every other spelling of its components does;
a server resolves it in this way in whatever order and how often its
configuration lists the names; and a path that has resolved to itself, or to the
index page of the directory that it names, still does when a name is added. -/
theorem resolution_follows_order (files : FileSystem) (root path : String)
    (names : List String) :
    ∃ components, Spells path components ∧
      (∀ found, resolve? files root path (NameSet.ofList names).names = found ↔
        Resolution files root components names found) ∧
      (∀ other, Spells other components →
        resolve? files root other (NameSet.ofList names).names =
          resolve? files root path (NameSet.ofList names).names) ∧
      (∀ {σ : Type} (config : Config), config.http.rootDirectory = some root →
        (∀ name, name ∈ config.http.resourceNames ↔ name ∈ names) →
        (Server.ofConfig config : Server σ).resource? files path =
          resolve? files root path (NameSet.ofList names).names) ∧
      ∀ location, OwnFile files root components location →
        resolve? files root path (NameSet.ofList names).names = some location →
        ∀ name, resolve? files root path ((NameSet.ofList names).insert name).names =
          some location := by
  have spelled : Spells path (pathParts path) := spells_iff.2 rfl
  have sorted := NameSet.increasing_ofList names
  refine ⟨pathParts path, spelled, fun found => ?_, fun other => resolve?_of_spells spelled,
    ?_, fun location own resolved => resolve?_insert sorted spelled own resolved⟩
  · rw [resolve?_eq_iff sorted spelled]
    exact ⟨.congr fun name => NameSet.mem_ofList.symm, .congr fun name => NameSet.mem_ofList⟩
  · intro σ config rooted same
    have set : NameSet.ofList config.http.resourceNames = NameSet.ofList names :=
      NameSet.ofList_congr same
    unfold Server.resource? Server.ofConfig
    rw [rooted, set]
    rfl

example :
    let files : FileSystem :=
      { root := .directory [("site", .directory [("docs", .directory
          [("ä.htm", .file (some [1])), ("z.htm", .file (some [2]))])])]
        working := [] }
    resolve? files "/site" "//docs/./" (NameSet.ofList ["ä.htm", "../z.htm", "z.htm"]).names =
      some { root := "/site", parts := ["docs", "z.htm"] } := by decide +kernel

end WebHost
