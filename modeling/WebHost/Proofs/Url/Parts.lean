/-
Module: WebHost.Proofs.Url.Parts
Purpose: Scheme and host of a URL, read off the text that writes it.
Main exports:
  isHostChar, UrlHost.cases_of_parse?, PlainServer, EndsServer, tidy_append,
  readScheme?_of_endsServer, readScheme?_colon, scheme_of_readAfterScheme?,
  readAfterScheme?_http, readAfterScheme?_plain, host_of_readAuthority?
-/
import WebHost.Proofs.Header.Values
import WebHost.Proofs.Server.Paths
import WebHost.Proofs.Text.Pieces
import WebHost.Url.Basic

namespace WebHost

open Text

/-!
A text is read from the left: a scheme up to a colon, then a server up to a slash,
a question mark or a number sign.  Reading one of these takes just what it is written
with and leaves the rest, whatever that is.  A plain host name stands for itself in
small letters, or for an address if it ends in a number; which of the two, the host
shows.
-/

/-! ### Plain host names -/

/-- A character of a plain host name: an ASCII letter or digit, a dot or a dash. -/
def isHostChar (character : Char) : Bool :=
  character.isAlphanum || character == '.' || character == '-'

theorem ascii_of_isAlphanum {character : Char} (word : character.isAlphanum = true) :
    character.toNat < 128 := by
  have number : character.val.toNat = character.toNat := rfl
  delta Char.isAlphanum Char.isAlpha Char.isUpper Char.isLower Char.isDigit at word
  simp only [Bool.or_eq_true, Bool.and_eq_true, decide_eq_true_eq, UInt32.le_iff_toNat_le,
    ge_iff_le, Char.reduceVal, UInt32.reduceToNat] at word
  omega

theorem ascii_of_isHostChar {character : Char} (plain : isHostChar character = true) :
    character.toNat < 128 := by
  unfold isHostChar at plain
  simp only [Bool.or_eq_true, beq_iff_eq] at plain
  rcases plain with (word | rfl) | rfl
  · exact ascii_of_isAlphanum word
  · decide
  · decide

/-- A plain host name has none of the signs that part a URL. -/
theorem apart_of_isHostChar {character : Char} (plain : isHostChar character = true) :
    Url.isEdge character = false ∧ Url.endsAuthority true character = false ∧
      character ∉ ['@', '%', ':', '[', ']'] :=
  forall_ascii (P := fun c => isHostChar c = true → Url.isEdge c = false ∧
    Url.endsAuthority true c = false ∧ c ∉ ['@', '%', ':', '[', ']'])
    (by decide) (ascii_of_isHostChar plain) plain

theorem isHostChar_of_isDigit {character : Char} (digit : character.isDigit = true) :
    isHostChar character = true := by
  simp [isHostChar, Char.isAlphanum, digit]

/-- Without percent signs there is nothing to decode. -/
theorem percentDecode_of_plain {bytes : Bytes} (plain : ∀ byte ∈ bytes, byte ≠ 37) :
    percentDecode bytes = bytes := by
  induction bytes with
  | nil => rfl
  | cons first rest ih =>
      obtain ⟨here, there⟩ := List.forall_mem_cons.1 plain
      rw [percentDecode_cons here, ih there]

section Name

variable {name : List Char} (plain : ∀ character ∈ name, isHostChar character = true)

include plain

theorem percentDecodeText?_of_plain :
    percentDecodeText? (String.ofList name) = some (String.ofList name) := by
  have signless : ∀ byte ∈ encode (String.ofList name), byte ≠ 37 := by
    intro byte member
    rw [encode_eq_flatMap, String.toList_ofList, List.mem_flatMap] at member
    obtain ⟨character, among, held⟩ := member
    have ascii := ascii_of_isHostChar (plain character among)
    rw [utf8EncodeChar_of_ascii ascii, List.mem_singleton] at held
    rintro rfl
    have number : character.toNat = 37 := by
      rw [← toNat_byte_of_ascii ascii, ← held]
      rfl
    have sign : character = '%' := Char.toNat_inj.1 number
    exact (apart_of_isHostChar (plain character among)).2.2 (by simp [sign])
  rw [percentDecodeText?, percentDecode_of_plain signless]
  exact decode?_encode _

theorem foldDomain_of_plain :
    name.flatMap UrlHost.foldDomainChar = name.map Char.toLower := by
  induction name with
  | nil => rfl
  | cons first rest ih =>
      obtain ⟨here, there⟩ := List.forall_mem_cons.1 plain
      have folded : UrlHost.foldDomainChar first = [first.toLower] := by
        rw [UrlHost.foldDomainChar, if_pos (ascii_of_isHostChar here)]
      rw [List.flatMap_cons, folded, ih there]
      rfl

omit plain in
/-- A label of ASCII stays as it is, if it may stand. -/
theorem eq_of_labelToAscii? {label written : List Char}
    (ascii : ∀ character ∈ label, character.toNat < 128)
    (read : UrlHost.labelToAscii? label = some written) : written = label := by
  have all : (label.all fun c => decide (c.toNat < 0x80)) = true :=
    List.all_eq_true.2 fun character member => decide_eq_true (ascii character member)
  rw [UrlHost.labelToAscii?, if_pos all] at read
  split at read
  · exact (Option.some.inj read).symm
  · split at read
    · exact (Option.some.inj read).symm
    · cases read

omit plain in
theorem eq_of_mapM_labelToAscii? {labels written : List (List Char)}
    (ascii : ∀ label ∈ labels, ∀ character ∈ label, character.toNat < 128)
    (read : labels.mapM UrlHost.labelToAscii? = some written) : written = labels := by
  induction labels generalizing written with
  | nil => simpa using read.symm
  | cons first rest ih =>
      obtain ⟨here, there⟩ := List.forall_mem_cons.1 ascii
      simp only [List.mapM_cons, Option.bind_eq_bind, Option.bind_eq_some_iff, Option.pure_def,
        Option.some.injEq] at read
      obtain ⟨label, kept, labels, others, rfl⟩ := read
      rw [eq_of_labelToAscii? here kept, ih there others]

/-- A plain name that is a domain is itself in small letters. -/
theorem domainToAscii?_of_plain {domain : List Char}
    (read : UrlHost.domainToAscii? (String.ofList name) = some domain) :
    domain = name.map Char.toLower := by
  have ascii : ∀ character ∈ name.map Char.toLower, character.toNat < 128 := by
    intro character member
    obtain ⟨original, among, rfl⟩ := List.mem_map.1 member
    exact forall_ascii (P := fun c => c.toLower.toNat < 128) (by decide)
      (ascii_of_isHostChar (plain original among))
  unfold UrlHost.domainToAscii? at read
  rw [String.toList_ofList, foldDomain_of_plain plain] at read
  simp only [Option.ite_none_left_eq_some, Option.map_eq_some_iff] at read
  obtain ⟨-, labels, kept, rfl⟩ := read
  have pieces : ∀ label ∈ (name.map Char.toLower).splitOn '.', ∀ character ∈ label,
      character.toNat < 128 :=
    fun label among character member => ascii character (mem_of_mem_piece among member)
  rw [eq_of_mapM_labelToAscii? pieces kept]
  exact List.intercalate_splitOn '.'

/-- A plain name is read as an address if it ends in a number, and else as itself in
small letters. -/
theorem UrlHost.cases_of_parse? {host : UrlHost} (read : UrlHost.parse? name = some host) :
    UrlHost.endsInNumber (name.map Char.toLower) = true ∧ (∃ number, host = .four number) ∨
      UrlHost.endsInNumber (name.map Char.toLower) = false ∧
        host = .domain (String.ofList (name.map Char.toLower)) := by
  have bare : name.head? ≠ some '[' := by
    intro bracket
    have among := plain '[' (List.mem_of_mem_head? bracket)
    exact absurd among (by decide)
  unfold UrlHost.parse? at read
  rw [if_neg bare, percentDecodeText?_of_plain plain] at read
  simp only [Option.bind_eq_bind, Option.bind_some, Option.bind_eq_some_iff] at read
  obtain ⟨domain, found, read⟩ := read
  rw [domainToAscii?_of_plain plain found] at read
  split at read
  · cases read
  · split at read
    · rename_i numeric
      obtain ⟨number, -, rfl⟩ := Option.map_eq_some_iff.1 read
      exact .inl ⟨numeric, number, rfl⟩
    · rename_i named
      cases read
      exact .inr ⟨eq_false_of_ne_true named, rfl⟩

end Name

/-! ### Servers -/

/-- A server in plain writing: a host name, and a port in digits if there is one. -/
structure PlainServer where
  name : List Char
  port : Option (List Char)
  named : name ≠ []
  plain : ∀ character ∈ name, isHostChar character = true
  numbered : ∀ digits ∈ port, digits ≠ [] ∧ ∀ character ∈ digits, character.isDigit = true

namespace PlainServer

variable (server : PlainServer)

/-- The port after its colon. -/
def portText : List Char :=
  (server.port.map (':' :: ·)).getD []

def text : List Char :=
  server.name ++ server.portText

theorem portText_cases : server.port = none ∧ server.portText = [] ∨
    ∃ first digits, server.port = some (first :: digits) ∧
      server.portText = ':' :: first :: digits ∧
      ∀ character ∈ first :: digits, character.isDigit = true := by
  rcases server with ⟨name, _ | digits, named, plain, numbered⟩
  · exact .inl ⟨rfl, rfl⟩
  · obtain ⟨nonempty, all⟩ := numbered digits rfl
    cases digits with
    | nil => exact absurd rfl nonempty
    | cons first digits => exact .inr ⟨first, digits, rfl, rfl, all⟩

/-- A server is written with the characters of host names and with colons. -/
theorem cases_of_mem_text {character : Char} (member : character ∈ server.text) :
    isHostChar character = true ∨ character = ':' := by
  rcases List.mem_append.1 member with inName | inPort
  · exact .inl (server.plain character inName)
  · rcases server.portText_cases with ⟨-, empty⟩ | ⟨first, digits, -, written, all⟩
    · rw [empty] at inPort
      cases inPort
    · rw [written, List.mem_cons] at inPort
      rcases inPort with colon | digit
      · exact .inr colon
      · exact .inl (isHostChar_of_isDigit (all character digit))

end PlainServer

namespace Url

variable {scheme : String} {characters rest : List Char} {url : Url}

/-- Nothing follows, or what a slash, a question mark or a number sign starts. -/
def EndsServer (rest : List Char) : Prop :=
  ∀ first ∈ rest.head?, first = '/' ∨ first = '?' ∨ first = '#'

theorem EndsServer.stops {keeps : Char → Bool} (ends : EndsServer rest)
    (slash : keeps '/' = false) (question : keeps '?' = false) (number : keeps '#' = false) :
    ∀ first ∈ rest.head?, keeps first = false := by
  intro first found
  rcases ends first found with rfl | rfl | rfl
  · exact slash
  · exact question
  · exact number

theorem EndsServer.append {front back : List Char} (first : EndsServer front)
    (second : EndsServer back) : EndsServer (front ++ back) := by
  cases front with
  | nil => exact second
  | cons sign others => exact first

/-- A run of kept items ends where the first one follows that is not kept. -/
theorem takeWhile_append_of_ends {α : Type} {keeps : α → Bool} {run rest : List α}
    (kept : ∀ item ∈ run, keeps item = true)
    (ends : ∀ item ∈ rest.head?, keeps item = false) : (run ++ rest).takeWhile keeps = run := by
  rw [List.takeWhile_append_of_pos kept]
  cases rest with
  | nil => simp
  | cons first others => simp [ends first rfl]

/-! ### Ends of a text -/

/-- What counts of the end of a text. -/
def tidyEnd (rest : List Char) : List Char :=
  (trimEndWhile isEdge rest).filter fun c => !(['\t', '\n', '\r'].contains c)

/-- Line breaks and tabs are among what may stand at the ends. -/
theorem filter_of_not_isEdge {core : List Char}
    (solid : ∀ character ∈ core, isEdge character = false) :
    (core.filter fun c => !(['\t', '\n', '\r'].contains c)) = core := by
  apply List.filter_eq_self.2
  intro character member
  have apart : character ∉ ['\t', '\n', '\r'] := by
    intro among
    have edge : isEdge character = true := by
      simp only [List.mem_cons, List.not_mem_nil, or_false] at among
      rcases among with rfl | rfl | rfl <;> decide
    rw [solid character member] at edge
    cases edge
  simpa using apart

theorem tidyEnd_append {core : List Char}
    (solid : ∀ character ∈ core, isEdge character = false) (rest : List Char) :
    tidyEnd (core ++ rest) = core ++ tidyEnd rest := by
  rw [tidyEnd, trimEndWhile_append solid, List.filter_append, filter_of_not_isEdge solid]
  rfl

/-- What does not begin with a blank is tidied at its end alone. -/
theorem tidy_append {core : List Char} (nonempty : core ≠ [])
    (solid : ∀ character ∈ core, isEdge character = false) (rest : List Char) :
    tidy (String.ofList (core ++ rest)) = core ++ tidyEnd rest := by
  have front : (core ++ rest).dropWhile isEdge = core ++ rest := by
    apply dropWhile_of_head?
    intro first found
    cases core with
    | nil => exact absurd rfl nonempty
    | cons start others =>
        cases found
        exact solid first List.mem_cons_self
  rw [tidy, String.toList_ofList, trimWhile, trimStartWhile, front, ← tidyEnd_append solid]
  rfl

theorem endsServer_tidyEnd (ends : EndsServer rest) : EndsServer (tidyEnd rest) := by
  cases rest with
  | nil => exact ends
  | cons first others =>
      have solid : ∀ character ∈ [first], isEdge character = false := by
        intro character member
        rw [List.mem_singleton.1 member]
        exact ends.stops rfl rfl rfl first rfl
      rw [show first :: others = [first] ++ others from rfl, tidyEnd_append solid]
      rintro _ ⟨⟩
      exact ends first rfl

theorem isEdge_of_mem_text {server : PlainServer} {character : Char}
    (member : character ∈ server.text) : isEdge character = false := by
  rcases server.cases_of_mem_text member with plain | rfl
  · exact (apart_of_isHostChar plain).1
  · decide

/-! ### Schemes -/

section Scheme

variable {name : List Char} (plain : ∀ character ∈ name, isHostChar character = true)

theorem inScheme_of_isHostChar {character : Char} (plain : isHostChar character = true) :
    (character.isAlphanum || ['+', '-', '.'].contains character) = true := by
  unfold isHostChar at plain
  simp only [Bool.or_eq_true, beq_iff_eq] at plain
  rcases plain with (word | rfl) | rfl
  · simp [word]
  · decide
  · decide

include plain

/-- A scheme is read up to what cannot stand in one. -/
theorem readScheme?_append :
    (∀ first ∈ rest.head?, (first.isAlphanum || ['+', '-', '.'].contains first) = false) →
      readScheme? (name ++ rest) =
        match name.head?, rest with
        | some first, ':' :: after =>
            if first.isAlpha then some (String.ofList (name.map Char.toLower), after) else none
        | _, _ => none := by
  intro stops
  have whole := takeWhile_append_of_ends
    (fun character member => inScheme_of_isHostChar (plain character member)) stops
  unfold readScheme?
  rw [whole]
  dsimp only
  rewrite [List.drop_left]
  rfl

/-- A name is no scheme without a colon. -/
theorem readScheme?_of_endsServer (ends : EndsServer rest) : readScheme? (name ++ rest) = none := by
  rw [readScheme?_append plain (ends.stops rfl rfl rfl)]
  split
  · exact absurd (ends ':' rfl) (by decide)
  · rfl

/-- A name before a colon is a scheme if it begins with a letter. -/
theorem readScheme?_colon :
    readScheme? (name ++ ':' :: rest) =
      if (name.head?.map Char.isAlpha).getD false then
        some (String.ofList (name.map Char.toLower), rest)
      else none := by
  have stops : ∀ first ∈ (':' :: rest).head?,
      (first.isAlphanum || ['+', '-', '.'].contains first) = false := by
    rintro _ ⟨⟩
    decide
  rw [readScheme?_append plain stops]
  cases name with
  | nil => rfl
  | cons first others => rfl

end Scheme

/-! ### Authorities -/

/-- The steps of reading an authority: it is cut into its parts, the host and the port
are read, and user information needs a host. -/
theorem readAuthority?_eq_some_iff :
    readAuthority? scheme characters = some url ↔
      ∃ userInfo server hostText portPart host port,
        splitUserInfo scheme (authorityOf scheme characters) = (userInfo, server) ∧
        splitServer scheme server = (hostText, portPart) ∧
        readHost? scheme hostText = some host ∧ readPortPart? scheme host portPart = some port ∧
        ¬ (host = none ∧ userInfo.isSome ∧ ((userInfo.map userInfoText).getD "" ≠ "" ∨
            characters.drop (authorityOf scheme characters).length ≠ [])) ∧
        url = afterAuthority scheme ((userInfo.map userInfoText).getD "") host port
          (characters.drop (authorityOf scheme characters).length) := by
  unfold readAuthority?
  simp only [Option.bind_eq_bind, Option.bind_eq_some_iff, Option.ite_none_left_eq_some,
    Option.some.injEq]
  constructor
  · rintro ⟨host, hosted, port, ported, fits, rfl⟩
    exact ⟨_, _, _, _, host, port, rfl, rfl, hosted, ported, fits, rfl⟩
  · rintro ⟨userInfo, server, hostText, portPart, host, port, split, parts, hosted, ported, fits,
      rfl⟩
    simp only [split, parts]
    exact ⟨host, hosted, port, ported, fits, rfl⟩

theorem scheme_of_readAuthority? (read : readAuthority? scheme characters = some url) :
    url.scheme = scheme := by
  obtain ⟨_, _, _, _, _, _, _, _, _, _, _, rfl⟩ := readAuthority?_eq_some_iff.1 read
  rfl

/-- Whatever follows it, the scheme is kept. -/
theorem scheme_of_readAfterScheme? (read : readAfterScheme? scheme rest = some url) :
    url.scheme = scheme := by
  unfold readAfterScheme? at read
  split at read
  · split at read
    · split at read <;> exact scheme_of_readAuthority? read
    · exact scheme_of_readAuthority? read
  · split at read
    · exact scheme_of_readAuthority? read
    · split at read
      · exact scheme_of_readAuthority? read
      · cases read
        rfl

/-- The slashes before a server of the web do not count. -/
theorem readAfterScheme?_http (rest : List Char) :
    readAfterScheme? "http" rest = readAuthority? "http" (rest.dropWhile isSlash) := by
  unfold readAfterScheme?
  rw [if_neg (by decide), if_pos (by decide)]

/-- A scheme that is not special takes whatever follows it but two slashes. -/
theorem readAfterScheme?_plain (other : isSpecial scheme = false)
    (plain : rest.head? ≠ some '/') :
    readAfterScheme? scheme rest = some (readPlain scheme rest) := by
  have noFile : scheme ≠ "file" := by
    rintro rfl
    exact absurd other (by decide)
  unfold readAfterScheme?
  rw [if_neg noFile, if_neg (by simp [other])]
  split
  · exact absurd rfl plain
  · rfl

section Server

variable (server : PlainServer)

theorem authorityOf_server (ends : EndsServer rest) :
    authorityOf "http" (server.text ++ rest) = server.text := by
  have inside : ∀ character ∈ server.text, (!endsAuthority true character) = true := by
    intro character member
    rcases server.cases_of_mem_text member with plain | rfl
    · rw [(apart_of_isHostChar plain).2.1]
      rfl
    · decide
  unfold authorityOf
  exact takeWhile_append_of_ends inside (ends.stops rfl rfl rfl)

theorem splitUserInfo_server : splitUserInfo "http" server.text = (none, server.text) := by
  have signless : '@' ∉ server.text := by
    intro member
    rcases server.cases_of_mem_text member with plain | colon
    · exact absurd plain (by decide)
    · cases colon
  rw [splitUserInfo, if_neg (by decide), cutAtLast_eq_none_iff.2 signless]

theorem spanHost_append {name : List Char}
    (plain : ∀ character ∈ name, isHostChar character = true) (after : List Char) :
    spanHost false (name ++ after) =
      (name ++ (spanHost false after).1, (spanHost false after).2) := by
  induction name with
  | nil => rfl
  | cons first rest ih =>
      obtain ⟨here, there⟩ := List.forall_mem_cons.1 plain
      have apart := (apart_of_isHostChar here).2.2
      simp only [List.mem_cons, List.not_mem_nil, or_false, not_or] at apart
      simp [spanHost, apart, ih there]

theorem splitServer_server : splitServer "http" server.text = (server.name, server.portText) := by
  rw [splitServer, if_neg (by decide), PlainServer.text, spanHost_append server.plain]
  rcases server.portText_cases with ⟨-, empty⟩ | ⟨first, digits, -, written, -⟩
  · rw [empty]
    simp [spanHost]
  · rw [written]
    simp [spanHost]

variable {server}

/-- The host of a plain server is the one that its name writes. -/
theorem host_of_readAuthority? (ends : EndsServer rest)
    (read : readAuthority? "http" (server.text ++ rest) = some url) :
    ∃ host, UrlHost.parse? server.name = some host ∧ url.host = some host := by
  obtain ⟨userInfo, serverText, hostText, portPart, host, port, split, parts, hosted, -, -, rfl⟩ :=
    readAuthority?_eq_some_iff.1 read
  rw [authorityOf_server server ends, splitUserInfo_server] at split
  cases split
  rw [splitServer_server] at parts
  cases parts
  rw [readHost?, if_neg (by decide), if_pos (by decide), if_neg server.named,
    Option.map_eq_some_iff] at hosted
  obtain ⟨named, found, rfl⟩ := hosted
  exact ⟨named, found, rfl⟩

end Server

end Url

end WebHost
