/-
Module: WebHost.Proofs.Files.Containment
Purpose: Static files are found below the root and nowhere else.
Main exports:
  Location.Within, relativeParts?_eq_some_iff, resolve?_spec, resolve?_congr,
  SameBelowRoot, static_files_stay_below_root
-/
import WebHost.Proofs.Files.Paths
import WebHost.Proofs.Server.Routes
import WebHost.Proofs.Text.Pieces
import WebHost.Server.Router

namespace WebHost

open FileSystem Text

/-!
A request path resolves only to a location whose parts are entry names, so the
file it names lies below the node that the root names.  The converse view says
more: a server gives the same answers in any two trees that agree below its
root, so no answer carries a byte of anything else.
-/

/-! ### Relative paths -/

/-- The parts of a path are entry names unless they go up. -/
theorem isEntryName_of_mem_pathParts {path part : String} (member : part ∈ pathParts path)
    (down : part ≠ "..") : IsEntryName part := by
  simp only [pathParts, List.mem_filter, List.mem_map, Bool.and_eq_true,
    decide_eq_true_eq] at member
  obtain ⟨⟨piece, among, rfl⟩, nonempty, notDot⟩ := member
  exact ⟨nonempty, by simpa using not_mem_of_mem_splitOn among, notDot, down⟩

/-- A path goes up exactly if one of its pieces between slashes is two dots. -/
theorem parent_mem_pathParts_iff {path : String} :
    ".." ∈ pathParts path ↔ ['.', '.'] ∈ path.toList.splitOn '/' := by
  simp only [pathParts, List.mem_filter, List.mem_map]
  constructor
  · rintro ⟨⟨piece, among, same⟩, _⟩
    have dots : piece = ['.', '.'] := by simpa using congrArg String.toList same
    rwa [← dots]
  · intro among
    exact ⟨⟨['.', '.'], among, rfl⟩, by decide⟩

/-- A relative path is its parts, if none of them goes up. -/
theorem relativeParts?_eq_some_iff {path : String} {parts : List String} :
    relativeParts? path = some parts ↔ parts = pathParts path ∧ ".." ∉ parts := by
  unfold relativeParts?
  by_cases up : ".." ∈ pathParts path
  · have shown : (pathParts path).contains ".." = true := by simpa using up
    simp only [shown, if_true, reduceCtorEq, false_iff, not_and, Decidable.not_not]
    rintro rfl
    exact up
  · have shown : (pathParts path).contains ".." = false := by simpa using up
    simp only [shown, Bool.false_eq_true, if_false, Option.some.injEq]
    constructor
    · rintro rfl
      exact ⟨rfl, up⟩
    · exact fun same => same.1.symm

theorem isEntryName_of_relativeParts? {path : String} {parts : List String}
    (relative : relativeParts? path = some parts) : ∀ part ∈ parts, IsEntryName part := by
  intro part member
  obtain ⟨rfl, down⟩ := relativeParts?_eq_some_iff.1 relative
  exact isEntryName_of_mem_pathParts member (fun up => down (up ▸ member))

theorem relativeParts?_eq_none_iff {path : String} :
    relativeParts? path = none ↔ ['.', '.'] ∈ path.toList.splitOn '/' := by
  rw [← parent_mem_pathParts_iff]
  simp [relativeParts?]

/-! ### Resolution -/

/-- The location of a file below a root.  The way from the root to it goes down
by entries only, in the text of the path as in the tree. -/
structure Location.Within (files : FileSystem) (root : String) (location : Location) : Prop where
  root_eq : location.root = root
  plain : location.Plain
  isFile : files.isFile location.text = true
  parts_ne_nil : files.isDirectory root = true → location.parts ≠ []
  pathParts_eq : pathParts location.text = pathParts root ++ location.parts
  below : ∃ directory content, files.nodeAt? root = some directory ∧
    directory.descend? location.parts = some (.file content) ∧
    files.locate location.text = .ok (.file content)

/-- Entry names that lead to a file lead to one below the root. -/
theorem Location.within_of_isFile {files : FileSystem} {location : Location}
    (plain : location.Plain) (file : files.isFile location.text = true) :
    location.Within files location.root := by
  obtain ⟨content, located⟩ := isFile_iff.1 file
  have found : files.nodeAt? location.text = some (.file content) :=
    (locate_eq_ok_iff.1 located).2.1
  rw [nodeAt?_text files plain, Option.bind_eq_some_iff] at found
  obtain ⟨directory, atRoot, descends⟩ := found
  refine ⟨rfl, plain, file, ?_, pathParts_text plain, directory, content, atRoot, descends, located⟩
  intro rootDirectory own
  have sameText : location.text = location.root := by simp [text, own]
  rw [sameText, not_isFile_of_isDirectory rootDirectory] at file
  exact Bool.false_ne_true file

theorem isEntryName_indexFile : IsEntryName indexFile :=
  ⟨by decide, by decide, by decide, by decide⟩

theorem Location.plain_append {root : String} {parts more : List String}
    (above : ∀ part ∈ parts, IsEntryName part) (below : ∀ part ∈ more, IsEntryName part) :
    Location.Plain { root := root, parts := parts ++ more } :=
  fun part member => (List.mem_append.1 member).elim (above part) (below part)

/-- The location of the index page is plain if that of its directory is. -/
theorem Location.plain_index (root : String) {parts : List String}
    (above : ∀ part ∈ parts, IsEntryName part) :
    Location.Plain { root := root, parts := parts ++ [indexFile] } :=
  plain_append above fun _ member => List.mem_singleton.1 member ▸ isEntryName_indexFile

/-- What resolution finds is a file, and entry names lead to it. -/
theorem resolve?_spec {files : FileSystem} {root path : String} {fallbacks : List String}
    {location : Location} (resolved : resolve? files root path fallbacks = some location) :
    location.root = root ∧ location.Plain ∧ files.isFile location.text = true := by
  unfold resolve? at resolved
  cases relative : relativeParts? path with
  | none => simp [relative] at resolved
  | some parts =>
      have plain := isEntryName_of_relativeParts? relative
      simp only [relative] at resolved
      split at resolved
      · rename_i named
        cases resolved
        exact ⟨rfl, plain, named.2⟩
      · split at resolved
        · rename_i indexed
          cases resolved
          exact ⟨rfl, Location.plain_index root plain, indexed.2⟩
        · obtain ⟨name, _, candidate⟩ := List.exists_of_findSome?_eq_some resolved
          cases below : relativeParts? name with
          | none => simp [below] at candidate
          | some names =>
              simp only [below, Option.ite_none_right_eq_some] at candidate
              obtain ⟨file, same⟩ := candidate
              cases same
              exact ⟨rfl, Location.plain_append plain (isEntryName_of_relativeParts? below), file⟩

/-- Resolution finds files below the root. -/
theorem resolve?_within {files : FileSystem} {root path : String} {fallbacks : List String}
    {location : Location} (resolved : resolve? files root path fallbacks = some location) :
    location.Within files root := by
  obtain ⟨rfl, plain, file⟩ := resolve?_spec resolved
  exact Location.within_of_isFile plain file

/-- A path that goes up does not resolve. -/
theorem resolve?_of_parent (files : FileSystem) (root : String) {path : String}
    (fallbacks : List String) (up : ['.', '.'] ∈ path.toList.splitOn '/') :
    resolve? files root path fallbacks = none := by
  simp [resolve?, relativeParts?_eq_none_iff.2 up]

/-- Resolution depends on the tree only through what the root names. -/
theorem resolve?_congr {files other : FileSystem} {root : String}
    (same : files.nodeAt? root = other.nodeAt? root) (path : String) (fallbacks : List String) :
    resolve? files root path fallbacks = resolve? other root path fallbacks := by
  unfold resolve?
  cases relative : relativeParts? path with
  | none => rfl
  | some parts =>
      have plain := isEntryName_of_relativeParts? relative
      have place : Location.Plain { root := root, parts := parts } := plain
      have index := Location.plain_index root plain
      have fallback : ∀ name below, relativeParts? name = some below →
          files.isFile (Location.text { root := root, parts := parts ++ below }) =
            other.isFile (Location.text { root := root, parts := parts ++ below }) :=
        fun name below found =>
          isFile_text_congr (Location.plain_append plain (isEntryName_of_relativeParts? found)) same
      simp only [isFile_text_congr place same, isFile_text_congr index same,
        isDirectory_text_congr place same]
      congr 3
      funext name
      cases found : relativeParts? name with
      | none => rfl
      | some below => simp only [fallback name below found]

/-! ### Answers -/

section Answers

variable {σ : Type} {server : Server σ} {files other : FileSystem}

/-- Two trees look the same from the root of a server downwards. -/
def SameBelowRoot (server : Server σ) (files other : FileSystem) : Prop :=
  ∀ root, server.config.http.rootDirectory = some root → files.nodeAt? root = other.nodeAt? root

theorem resource?_congr (same : SameBelowRoot server files other) (path : String) :
    server.resource? files path = server.resource? other path := by
  unfold Server.resource?
  cases rooted : server.config.http.rootDirectory with
  | none => rfl
  | some root => exact resolve?_congr (same root rooted) path _

theorem route_congr (same : SameBelowRoot server files other) (incoming : Incoming) :
    server.route files incoming = server.route other incoming := by
  unfold Server.route
  simp only [resource?_congr same]

/-- A static file is one that the decoded path of a GET resolves to. -/
theorem route_eq_resource {incoming : Incoming} {location : Location}
    (routed : server.route files incoming = .resource location) :
    incoming.method = "GET" ∧ ∃ root path, server.config.http.rootDirectory = some root ∧
      percentDecodeText? incoming.target.path = some path ∧
      resolve? files root path server.resourceNames.names = some location := by
  cases route_eq_iff_routed.1 routed with
  | resource path _ served decoded found =>
      obtain ⟨root, rooted, resolved⟩ := Option.bind_eq_some_iff.1 found
      exact ⟨served, root, path, rooted, decoded, resolved⟩

theorem no_parent_of_resolve? {root path : String} {fallbacks : List String} {location : Location}
    (resolved : resolve? files root path fallbacks = some location) :
    ['.', '.'] ∉ path.toList.splitOn '/' := by
  intro up
  rw [resolve?_of_parent files root fallbacks up] at resolved
  cases resolved

theorem notFoundPage?_eq_some_iff {content : Bytes} {extension : String} :
    server.notFoundPage? files = some (content, extension) ↔
      ∃ root page location, server.config.http.rootDirectory = some root ∧
        server.config.http.notFoundPath = some page ∧
        resolve? files root page [] = some location ∧
        files.read location.text = .ok content ∧ extensionOf location.text = extension := by
  simp only [Server.notFoundPage?, bind, Option.bind_eq_some_iff, toOption_eq_some_iff,
    Option.some.injEq, Prod.mk.injEq]
  constructor
  · rintro ⟨root, rooted, page, named, location, resolved, _, read, rfl, same⟩
    exact ⟨root, page, location, rooted, named, resolved, read, same⟩
  · rintro ⟨root, page, location, rooted, named, resolved, read, same⟩
    exact ⟨root, rooted, page, named, location, resolved, content, read, rfl, same⟩

theorem answerResource_congr (server : Server σ) {location : Location} (plain : location.Plain)
    (same : files.nodeAt? location.root = other.nodeAt? location.root) :
    server.answerResource files location = server.answerResource other location := by
  have sameRead := read_text_congr plain same
  unfold Server.answerResource
  cases here : files.read location.text <;> cases there : other.read location.text <;>
    simp [here, there, Except.toOption] at sameRead ⊢
  rw [sameRead]

theorem notFoundPage?_congr (same : SameBelowRoot server files other) :
    server.notFoundPage? files = server.notFoundPage? other := by
  unfold Server.notFoundPage?
  cases rooted : server.config.http.rootDirectory with
  | none => rfl
  | some root =>
      cases server.config.http.notFoundPath with
      | none => rfl
      | some page =>
          simp only [bind, Option.bind_some, ← resolve?_congr (same root rooted)]
          cases resolved : resolve? files root page [] with
          | none => rfl
          | some location =>
              obtain ⟨rfl, plain, _⟩ := resolve?_spec resolved
              simp only [Option.bind_some, read_text_congr plain (same _ rooted)]

/-- A server answers alike in two trees that are the same from its root on. -/
theorem answer_congr (same : SameBelowRoot server files other) (incoming : Incoming) (state : σ) :
    server.answer files incoming state = server.answer other incoming state := by
  unfold Server.answer Server.answerUnmatched
  rw [← route_congr same, notFoundPage?_congr same]
  cases routed : server.route files incoming with
  | resource location =>
      obtain ⟨_, root, path, rooted, _, resolved⟩ := route_eq_resource routed
      obtain ⟨rfl, plain, _⟩ := resolve?_spec resolved
      simp only [answerResource_congr server plain (same _ rooted)]
  | methodNotAllowed => rfl
  | undecodable => rfl
  | entry service path method run => rfl
  | unmatched => rfl

theorem respond_congr (router : Router σ) (same : SameBelowRoot router.server files other)
    (incoming : Incoming) (fresh : FieldValue) (world : World σ) :
    router.respond files incoming fresh world = router.respond other incoming fresh world := by
  simp only [Router.respond, Router.dispatch, answer_congr same]

/-- Static files stay below the root of the server: what a path resolves to lies
there, a path with two dots as a piece resolves to nothing, the file of an
answer and the page for what is not found are such resolutions, and a tree that
differs anywhere else gets the same answers. -/
theorem static_files_stay_below_root (router : Router σ) (files : FileSystem)
    (incoming : Incoming) (fresh : FieldValue) (world : World σ) :
    (∀ root path fallbacks location, resolve? files root path fallbacks = some location →
      location.Within files root) ∧
    (∀ root path fallbacks, ['.', '.'] ∈ path.toList.splitOn '/' →
      resolve? files root path fallbacks = none) ∧
    (∀ location, router.server.route files incoming = .resource location →
      incoming.method = "GET" ∧ ∃ root path,
        router.server.config.http.rootDirectory = some root ∧
        percentDecodeText? incoming.target.path = some path ∧
        ['.', '.'] ∉ path.toList.splitOn '/' ∧ location.Within files root) ∧
    (∀ content extension, router.server.notFoundPage? files = some (content, extension) →
      ∃ root page, ∃ location : Location,
        router.server.config.http.rootDirectory = some root ∧
        router.server.config.http.notFoundPath = some page ∧
        ['.', '.'] ∉ page.toList.splitOn '/' ∧ location.Within files root ∧
        files.read location.text = .ok content) ∧
    (∀ other, SameBelowRoot router.server files other →
      router.respond files incoming fresh world = router.respond other incoming fresh world) := by
  refine ⟨?_, ?_, ?_, ?_, ?_⟩
  · exact fun root path fallbacks location => resolve?_within
  · exact fun root path fallbacks => resolve?_of_parent files root fallbacks
  · intro location routed
    obtain ⟨get, root, path, rooted, decoded, resolved⟩ := route_eq_resource routed
    exact ⟨get, root, path, rooted, decoded, no_parent_of_resolve? resolved,
      resolve?_within resolved⟩
  · intro content extension found
    obtain ⟨root, page, location, rooted, named, resolved, read, _⟩ :=
      notFoundPage?_eq_some_iff.1 found
    exact ⟨root, page, location, rooted, named, no_parent_of_resolve? resolved,
      resolve?_within resolved, read⟩
  · exact fun other same => respond_congr router same incoming fresh world

end Answers

/-- An empty path leads to the index page of the root, and to nothing beside
the root. -/
theorem static_files_stay_below_root_index :
    let files : FileSystem :=
      { root := .directory [("secret", .file (some [0])),
          ("site", .directory [("index.html", .file (some [1]))])]
        working := [] }
    let page : Location := { root := "/site", parts := ["index.html"] }
    resolve? files "/site" "//." ["/../secret"] = some page ∧ page.Within files "/site" ∧
      resolve? files "/site" "/./../secret" [] = none := by
  intro files page
  have resolved : resolve? files "/site" "//." ["/../secret"] = some page := by decide
  let router : Router Unit := .standard (Server.ofConfig default)
  obtain ⟨within, noParent, _⟩ :=
    static_files_stay_below_root router files default (.ofTexts []) (World.initial ())
  exact ⟨resolved, within _ _ _ _ resolved, noParent _ _ _ (by decide)⟩

end WebHost
