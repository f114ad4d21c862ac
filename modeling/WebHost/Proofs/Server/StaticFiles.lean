/-
Module: WebHost.Proofs.Server.StaticFiles
Purpose: Which static files are served, of those that a path resolves to.
Main exports:
  IsControl, isLegalValue_iff_noControl, MimeTable.Legal, MimeTable.Shows,
  isLegalValue_get_iff, FileExtension, fileExtension_iff, extensionOf_text,
  resolved_file_served_iff_shown
-/
import WebHost.Proofs.Server.NotFound

namespace WebHost

open Text

/-!
A file that a path resolves to is served with its bytes, under the content type of
its extension.  An extension without a registered type stands in its content type
itself, small letters apart, so a control character in it makes a content type that
no header can show.  That is the only thing in the name of a file that keeps it
from being served.
-/

variable {σ : Type}

/-! ### Control characters -/

/-- A character that no header shows: a control of ASCII, except for the tab. -/
def IsControl (character : Char) : Prop :=
  (character.toNat < 32 ∧ character.toNat ≠ 9) ∨ character.toNat = 127

instance (character : Char) : Decidable (IsControl character) :=
  inferInstanceAs (Decidable (_ ∨ _))

/-- A character has a byte that no header shows just when it is a control. -/
theorem all_isValueByte_utf8EncodeChar (character : Char) :
    (String.utf8EncodeChar character).all isValueByte = true ↔ ¬ IsControl character := by
  unfold IsControl
  by_cases ascii : character.toNat < 128
  · rw [utf8EncodeChar_of_ascii ascii, List.all_cons, List.all_nil, Bool.and_true,
      isValueByte_iff, toNat_byte_of_ascii ascii]
    omega
  · have wide : 128 ≤ character.toNat := Nat.not_lt.1 ascii
    have shown : (String.utf8EncodeChar character).all isValueByte = true := by
      rw [List.all_eq_true]
      intro byte member
      have high : ¬ byte.toNat < 128 := fun low =>
        not_ascii_of_mem_utf8EncodeChar wide member (UInt8.lt_iff_toNat_lt.2 low)
      rw [isValueByte_iff]
      omega
    exact iff_of_true shown (by omega)

/-- Text is a legal value just when there are no controls in it. -/
theorem isLegalValue_iff_noControl (text : String) :
    IsLegalValue text ↔ ∀ character ∈ text.toList, ¬ IsControl character := by
  rw [isLegalValue_iff, encode_eq_flatMap, List.all_flatMap, List.all_eq_true]
  simp only [all_isValueByte_utf8EncodeChar]

/-- Small letters come from letters only, so they change nothing about controls. -/
theorem isControl_toLower (character : Char) :
    IsControl character.toLower ↔ IsControl character := by
  by_cases ascii : character.toNat < 128
  · exact forall_ascii (P := fun c => IsControl c.toLower ↔ IsControl c)
      (by decide +kernel) ascii
  · rw [toLower_of_not_ascii ascii]

/-! ### Content types of extensions -/

/-- A table in which all types can stand in a header. -/
def MimeTable.Legal (types : MimeTable) : Prop :=
  ∀ normal type, types.entries.lookup normal = some type → IsLegalValue type

/-- The table has a type for the extension that a header shows: one that is
registered, or else one that names the extension, which has no control in it. -/
inductive MimeTable.Shows (types : MimeTable) (extension : String) : Prop where
  | registered (type : String)
      (found : types.entries.lookup (normalExtension extension) = some type) :
      types.Shows extension
  | named (harmless : ∀ character ∈ extension.toList, ¬ IsControl character) :
      types.Shows extension

theorem MimeTable.standard_legal : MimeTable.standard.Legal := by
  intro normal type found
  obtain ⟨before, after, split, -⟩ := List.lookup_eq_some_iff.1 found
  have member : (normal, type) ∈ standardTypes := by
    rw [show standardTypes = before ++ (normal, type) :: after from split]
    simp
  have all : ∀ entry ∈ standardTypes, (encode entry.2).all isValueByte = true := by
    decide +kernel
  exact (isLegalValue_iff _).2 (all _ member)

/-- Legal types can be registered. -/
theorem MimeTable.Legal.add {types : MimeTable} (legal : types.Legal) (extension : String)
    {contentType : String} (shown : IsLegalValue contentType) :
    (types.add extension contentType).Legal := by
  intro normal type found
  unfold MimeTable.add at found
  rw [List.lookup_cons] at found
  split at found
  · cases found
    exact shown
  · exact legal normal type found

/-- The normal form of an extension has the controls of the extension. -/
theorem noControl_normalExtension (extension : String) :
    (∀ character ∈ (normalExtension extension).toList, ¬ IsControl character) ↔
      ∀ character ∈ extension.toList, ¬ IsControl character := by
  unfold normalExtension
  rw [String.toList_ofList, List.forall_mem_map]
  simp only [isControl_toLower]
  constructor
  · intro harmless character member
    rw [← List.takeWhile_append_dropWhile (p := (· == '.')) (l := extension.toList),
      List.mem_append] at member
    rcases member with dots | rest
    · have dot : character = '.' := by simpa using List.mem_takeWhile_imp dots
      rw [dot]
      decide
    · exact harmless character rest
  · exact fun harmless character member =>
      harmless character (List.dropWhile_sublist _ |>.mem member)

theorem isLegalValue_get_iff {types : MimeTable} (legal : types.Legal) (extension : String) :
    IsLegalValue (types.get extension) ↔ types.Shows extension := by
  dsimp only [MimeTable.get]
  cases found : types.entries.lookup (normalExtension extension) with
  | some type => exact iff_of_true (legal _ type found) (.registered type found)
  | none =>
      have text : IsLegalValue "text/" := (isLegalValue_iff _).2 (by decide)
      rw [Option.getD_none, isLegalValue_append, isLegalValue_iff_noControl (normalExtension _),
        noControl_normalExtension]
      constructor
      · exact fun both => .named both.2
      · intro shown
        cases shown with
        | registered type registered => rw [found] at registered; cases registered
        | named harmless => exact ⟨text, harmless⟩

/-! ### Extensions of file names -/

/-- The extension of a file name: what stands behind its last dot, or nothing if there
is no dot but as the first character. -/
inductive FileExtension : String → String → Prop where
  | dotted (stem extension : List Char) (led : stem ≠ []) (last : '.' ∉ extension) :
      FileExtension (String.ofList (stem ++ '.' :: extension)) (String.ofList extension)
  | hidden (rest : List Char) (once : '.' ∉ rest) :
      FileExtension (String.ofList ('.' :: rest)) ""
  | undotted (name : List Char) (absent : '.' ∉ name) : FileExtension (String.ofList name) ""

/-- The extension that a cut of a file name at its last dot tells. -/
def nameExtension (name : String) : String :=
  match cutAtLast '.' name.toList with
  | some (_ :: _, extension) => String.ofList extension
  | _ => ""

/-- Every file name has one extension, and it is the one that the cut tells. -/
theorem fileExtension_iff {name extension : String} :
    FileExtension name extension ↔ nameExtension name = extension := by
  unfold nameExtension
  constructor
  · intro told
    cases told with
    | dotted stem behind led last =>
        obtain ⟨first, others, rfl⟩ := List.exists_cons_of_ne_nil led
        rw [String.toList_ofList, cutAtLast_eq_some_iff.2 ⟨rfl, last⟩]
    | hidden rest once =>
        rw [String.toList_ofList, cutAtLast_eq_some_iff.2 ⟨(List.nil_append _).symm, once⟩]
    | undotted name absent => rw [String.toList_ofList, cutAtLast_eq_none_iff.2 absent]
  · rintro rfl
    rw [← String.ofList_toList (s := name)]
    generalize name.toList = characters
    rw [String.toList_ofList]
    cases cut : cutAtLast '.' characters with
    | none => exact .undotted characters (cutAtLast_eq_none_iff.1 cut)
    | some parts =>
        obtain ⟨stem, behind⟩ := parts
        obtain ⟨rfl, last⟩ := cutAtLast_eq_some_iff.1 cut
        cases stem with
        | nil => exact .hidden behind last
        | cons first others => exact .dotted _ behind (List.cons_ne_nil _ _) last

/-- The extension of a location is that of its last part, whatever the root is. -/
theorem extensionOf_text {location : Location} (plain : location.Plain) {name : String}
    (last : location.parts.getLast? = some name) :
    extensionOf location.text = nameExtension name := by
  have ending : (pathParts location.text).getLast? = some name := by
    rw [Location.pathParts_text plain, List.getLast?_append, last, Option.some_or]
  have down : name ≠ ".." := (plain name (List.mem_of_getLast? last)).notParent
  unfold extensionOf
  rw [ending]
  split
  · contradiction
  · rename_i parent
    exact absurd (Option.some.inj parent) down
  · rename_i same
    cases same
    rfl

/-! ### The reply -/

/-- A content type with a legal encoding is legal if the table shows the extension. -/
theorem isLegalValue_contentTypeOf {server : Server σ} {files : FileSystem}
    (accepted : server.config.faults files = [])
    (encoding : IsLegalValue server.config.http.encoding) (types : server.types.Legal)
    (extension : String) :
    IsLegalValue (server.contentTypeOf extension) ↔ server.types.Shows extension := by
  have between : IsLegalValue "; charset=" := (isLegalValue_iff _).2 (by decide)
  rw [contentTypeOf_of_accepted accepted, isLegalValue_append, isLegalValue_append,
    isLegalValue_get_iff types]
  simp [between, encoding]

/-- A readable file that the path of a GET resolves to is served whole, under the
content type of its extension, if the table of types shows that extension; if it
does not, the server fails.  The extension is that of the name of the file. -/
theorem resolved_file_served_iff_shown (router : Router σ) (checked files : FileSystem)
    (incoming : Incoming) (fresh : FieldValue) (world : World σ) (location : Location)
    (content : Bytes) (accepted : router.server.config.faults checked = [])
    (encoding : IsLegalValue router.server.config.http.encoding)
    (types : router.server.types.Legal) (plain : isUpgradeRequest incoming.fields = false)
    (asked : FirstRule router.server files incoming (.resource location))
    (read : files.read location.text = .ok content) :
    ∃ extension,
      (∀ name, location.parts.getLast? = some name →
        ∀ other, FileExtension name other ↔ other = extension) ∧
      extension = extensionOf location.text ∧
      (router.server.types.Shows extension →
        ShowsContent (router.respond files incoming fresh world).1 200 content
          (router.server.types.get extension ++ "; charset=" ++
            router.server.config.http.encoding)) ∧
      (¬ router.server.types.Shows extension →
        (router.respond files incoming fresh world).1.status.code = 500) := by
  obtain ⟨replied, -, -⟩ := respond_of_not_upgrade router files plain fresh world
  cases asked with
  | resource root path _ served decoded rooted resolved =>
      have found : router.server.resource? files path = some location := by
        simp [Server.resource?, rooted, resolved]
      have routed : router.server.route files incoming = .resource location :=
        route_of_routed (.resource path location served decoded found)
      have answered : (router.server.answer files incoming world.app).1 =
          router.server.answerResource files location := by
        unfold Server.answer
        rw [routed]
      have legal_iff := isLegalValue_contentTypeOf accepted encoding types
        (extensionOf location.text)
      refine ⟨extensionOf location.text, ?_, rfl, ?_, ?_⟩
      · obtain ⟨-, entryNames, -⟩ := resolve?_spec resolved
        intro name last other
        rw [fileExtension_iff, extensionOf_text entryNames last, eq_comm]
      · intro shown
        have shows := (fileAnswer_answerResource router.server).bytes content read
          (legal_iff.2 shown)
        rw [contentTypeOf_of_accepted accepted] at shows
        rw [replied, answered]
        exact shows.finish router served fresh
      · intro hidden
        rw [replied, answered, status_finish, answerResource_of_read _ read, typedReply_of_illegal]
        · rfl
        · exact fun legal => hidden (legal_iff.1 legal)

/-- An extension that no type is registered for names its own, beyond ASCII too. -/
theorem resolved_file_served_unregistered :
    let files : FileSystem :=
      { root := .directory [("site", .directory [("a.Bé", .file (some [1, 2]))])], working := [] }
    let http : HttpConfig := { HttpConfig.standard with rootDirectory := some "/site" }
    let config : Config := { Config.standard with http := http }
    let types := MimeTable.standard.add ".MD" "text/markdown"
    let incoming := Incoming.bare "GET" "/a.B%C3%A9"
    config.faults files = [] ∧ types.Legal ∧ FileExtension "a.Bé" "Bé" ∧
      ∃ router : Router Unit, router.server = { Server.ofConfig config with types := types } ∧
        ShowsContent (router.respond files incoming (.ofTexts []) (World.initial ())).1 200 [1, 2]
          "text/bé; charset=utf-8" := by
  intro files http config types incoming
  have accepted : config.faults files = [] := by decide +kernel
  have legal : types.Legal :=
    MimeTable.standard_legal.add ".MD" ((isLegalValue_iff _).2 (by decide +kernel))
  let router : Router Unit := .standard { Server.ofConfig config with types := types }
  let location : Location := { root := "/site", parts := ["a.Bé"] }
  obtain ⟨extension, told, -, served, -⟩ :=
    resolved_file_served_iff_shown router files files incoming (.ofTexts []) (World.initial ())
      location [1, 2] accepted ((isLegalValue_iff _).2 (by decide +kernel)) legal (by decide)
      (.resource "/site" "/a.Bé" location rfl (by decide +kernel) rfl (by decide +kernel))
      (FileSystem.toOption_eq_some_iff.1 (by decide +kernel))
  have named : FileExtension "a.Bé" "Bé" := fileExtension_iff.2 (by decide +kernel)
  have same : "Bé" = extension := (told "a.Bé" rfl "Bé").1 named
  subst same
  have harmless : ∀ character ∈ "Bé".toList, ¬ IsControl character :=
    (isLegalValue_iff_noControl "Bé").1 ((isLegalValue_iff _).2 (by decide +kernel))
  exact ⟨accepted, legal, named, router, rfl, served (.named harmless)⟩

/-- A control character in the extension leaves a readable file unserved. -/
theorem resolved_file_unserved :
    ¬ ∀ (router : Router Unit) (files : FileSystem) (incoming : Incoming) (fresh : FieldValue)
      (world : World Unit) (location : Location) (content : Bytes),
        router.server.config.faults files = [] →
        IsLegalValue router.server.config.http.encoding → router.server.types.Legal →
        isUpgradeRequest incoming.fields = false →
        FirstRule router.server files incoming (.resource location) →
        files.read location.text = .ok content →
        (router.respond files incoming fresh world).1.status.code = 200 := by
  intro always
  let files : FileSystem :=
    { root := .directory [("site", .directory [("a.\x01", .file (some [120]))])], working := [] }
  let http : HttpConfig := { HttpConfig.standard with rootDirectory := some "/site" }
  let router : Router Unit := .standard (Server.ofConfig { Config.standard with http := http })
  let location : Location := { root := "/site", parts := ["a.\x01"] }
  have found := always router files (.bare "GET" "/a.%01") (.ofTexts []) (World.initial ())
    location [120] (by decide +kernel) ((isLegalValue_iff _).2 (by decide +kernel))
    MimeTable.standard_legal (by decide)
    (.resource "/site" "/a.\x01" location rfl (by decide +kernel) rfl (by decide +kernel))
    (FileSystem.toOption_eq_some_iff.1 (by decide +kernel))
  exact absurd found (by decide +kernel)

end WebHost
