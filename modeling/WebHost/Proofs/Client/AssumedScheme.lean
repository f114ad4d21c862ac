/-
Module: WebHost.Proofs.Client.AssumedScheme
Purpose: Which addresses without a scheme are read as URLs of `http`.
Main exports:
  BareAddress, BareAddress.Marked, parse?_of_http, parse?_written,
  bare_address_gets_http_unless_marked
-/
import WebHost.Client.Options
import WebHost.Proofs.Url.Parts

namespace WebHost

open Text

/-!
An address is typed with a server first and no scheme.  Whether it has a scheme is
asked of its whole text, so the mark of one that stands in the path, the query or the
fragment counts as its own.  Then the address is read as it stands: the server name
before a port becomes the scheme, and without a port there is none.
-/

/-- An address without a scheme: a server, and then a path, a query and a fragment of
any characters. -/
structure BareAddress extends PlainServer where
  path : Option (List Char)
  query : Option (List Char)
  fragment : Option (List Char)

namespace BareAddress

variable (address : BareAddress)

/-- Path, query and fragment, each after its sign. -/
def tail : List Char :=
  (address.path.map ('/' :: ·)).getD [] ++ (address.query.map ('?' :: ·)).getD [] ++
    (address.fragment.map ('#' :: ·)).getD []

/-- The address as it is typed. -/
def written : String :=
  String.ofList (address.toPlainServer.text ++ address.tail)

/-- The URL that was found for the address, or the error that names it. -/
def result : Option Url → Except ClientError Url
  | some url => .ok url
  | none => .error (.invalidUrl address.written)

/-- What the address with `http://` before it writes. -/
def asHttp : Except ClientError Url :=
  address.result (Url.parse? ("http://" ++ address.written))

/-- The path, the query or the fragment holds the mark of a scheme. -/
def Marked : Prop :=
  [':', '/', '/'] <:+: address.tail

/-- The name of the server would do as a scheme, and a colon follows it. -/
def schemeLike : Bool :=
  address.port.isSome && (address.name.head?.map Char.isAlpha).getD false

/-- The name of the server in small letters. -/
def lowerName : String :=
  String.ofList (address.name.map Char.toLower)

theorem endsServer_part {sign : Char} (known : sign = '/' ∨ sign = '?' ∨ sign = '#')
    (part : Option (List Char)) : Url.EndsServer ((part.map (sign :: ·)).getD []) := by
  cases part with
  | none => nofun
  | some rest =>
      intro first found
      cases found
      exact known

theorem endsServer_tail : Url.EndsServer address.tail := by
  apply Url.EndsServer.append
  · apply Url.EndsServer.append
    · exact endsServer_part (.inl rfl) address.path
    · exact endsServer_part (.inr (.inl rfl)) address.query
  · exact endsServer_part (.inr (.inr rfl)) address.fragment

theorem endsServer_tidied : Url.EndsServer (Url.tidyEnd address.tail) :=
  Url.endsServer_tidyEnd address.endsServer_tail

/-! ### The mark of a scheme -/

/-- A server does not hold the mark, nor does it begin in one. -/
theorem mark_infix_written_iff :
    [':', '/', '/'] <:+: address.written.toList ↔ address.Marked := by
  have colonless : ∀ {characters : List Char},
      (∀ character ∈ characters, isHostChar character = true) → ':' ∉ characters :=
    fun plain member => absurd (plain ':' member) (by decide)
  unfold written Marked PlainServer.text
  rw [String.toList_ofList, List.append_assoc, infix_append_iff (colonless address.plain)]
  rcases address.toPlainServer.portText_cases with ⟨-, empty⟩ | ⟨first, digits, -, port, all⟩
  · rw [empty, List.nil_append]
  · have numeric : ∀ character ∈ first :: digits, isHostChar character = true :=
      fun character member => isHostChar_of_isDigit (all character member)
    -- A digit follows the colon of a port, so the mark does not begin there.
    have apart : ¬ [':', '/', '/'] <+: ':' :: (first :: digits ++ address.tail) := by
      intro leads
      rw [List.cons_prefix_cons, List.cons_append, List.cons_prefix_cons] at leads
      exact absurd (leads.2.1 ▸ all first List.mem_cons_self) (by decide)
    rw [port, List.cons_append, List.infix_cons_iff, or_iff_right apart,
      infix_append_iff (colonless numeric)]

theorem withScheme_of_marked (marked : address.Marked) :
    withScheme address.written = address.written :=
  if_pos ((cutAtText_isSome_iff (by decide) _).2 (address.mark_infix_written_iff.2 marked))

theorem withScheme_of_not_marked (unmarked : ¬ address.Marked) :
    withScheme address.written = "http://" ++ address.written :=
  if_neg fun found =>
    unmarked (address.mark_infix_written_iff.1 ((cutAtText_isSome_iff (by decide) _).1 found))

/-! ### Both readings -/

/-- A server does not begin with a slash. -/
theorem dropWhile_isSlash_server (server : PlainServer) (rest : List Char) :
    (server.text ++ rest).dropWhile Url.isSlash = server.text ++ rest := by
  apply dropWhile_of_head?
  intro first found
  rcases server with ⟨name, port, named, plain, numbered⟩
  cases name with
  | nil => exact absurd rfl named
  | cons start others =>
      cases found
      exact forall_ascii (P := fun c => isHostChar c = true → Url.isSlash c = false) (by decide)
        (ascii_of_isHostChar (plain first List.mem_cons_self)) (plain first List.mem_cons_self)

theorem tidy_written :
    Url.tidy address.written = address.toPlainServer.text ++ Url.tidyEnd address.tail := by
  apply Url.tidy_append
  · exact fun empty => address.named (List.append_eq_nil_iff.1 empty).1
  · exact fun _ member => Url.isEdge_of_mem_text member

/-- With `http://` before it, the server comes next. -/
theorem parse?_of_http :
    Url.parse? ("http://" ++ address.written) =
      Url.readAuthority? "http" (address.toPlainServer.text ++ Url.tidyEnd address.tail) := by
  have text : "http://" ++ address.written =
      String.ofList (("http://".toList ++ address.toPlainServer.text) ++ address.tail) := by
    rw [written, ← String.ofList_toList (s := "http://"), ← String.ofList_append]
    simp
  have mark : ∀ character ∈ "http://".toList, Url.isEdge character = false := by
    simp [Url.isEdge]
  have solid : ∀ character ∈ "http://".toList ++ address.toPlainServer.text,
      Url.isEdge character = false := by
    intro character member
    rcases List.mem_append.1 member with inMark | inServer
    · exact mark character inMark
    · exact Url.isEdge_of_mem_text inServer
  have scheme (rest : List Char) :
      Url.readScheme? ("http://".toList ++ rest) = some ("http", '/' :: '/' :: rest) := rfl
  have slashes (rest : List Char) :
      ('/' :: '/' :: rest).dropWhile Url.isSlash = rest.dropWhile Url.isSlash := rfl
  rw [text, Url.parse?, Url.tidy_append (by simp) solid, List.append_assoc, scheme]
  change Url.readAfterScheme? "http" _ = _
  rw [Url.readAfterScheme?_http, slashes, dropWhile_isSlash_server]

/-- As it stands, the address has a scheme if the server name would do as one and a
port follows. -/
theorem parse?_written :
    address.schemeLike = false ∧ Url.parse? address.written = none ∨
      address.schemeLike = true ∧ ∃ digits, address.port = some digits ∧
        Url.parse? address.written =
          Url.readAfterScheme? address.lowerName (digits ++ Url.tidyEnd address.tail) := by
  rw [Url.parse?, tidy_written, PlainServer.text]
  rcases address.toPlainServer.portText_cases with
    ⟨portless, empty⟩ | ⟨first, digits, port, written, -⟩
  · left
    rw [empty, List.append_nil, Url.readScheme?_of_endsServer address.plain
      address.endsServer_tidied]
    exact ⟨by simp [schemeLike, portless], rfl⟩
  · rw [written, List.append_assoc, List.cons_append, Url.readScheme?_colon address.plain]
    by_cases letter : (address.name.head?.map Char.isAlpha).getD false = true
    · right
      rw [if_pos letter]
      exact ⟨by simp [schemeLike, port, letter], first :: digits, port, rfl⟩
    · left
      rw [if_neg letter]
      exact ⟨by simp [schemeLike, letter], rfl⟩

/-- The digits of a port where a server is read: they are its name. -/
def portAsServer (digits : List Char) (port : address.port = some digits) : PlainServer where
  name := digits
  port := none
  named := (address.numbered digits port).1
  plain character member :=
    isHostChar_of_isDigit ((address.numbered digits port).2 character member)
  numbered := by simp

/-- A name of digits is not read as the domain `http`. -/
theorem digits_not_http {digits : List Char} (nonempty : digits ≠ [])
    (all : ∀ character ∈ digits, character.isDigit = true) :
    UrlHost.parse? digits ≠ some (.domain "http") := by
  intro read
  rcases UrlHost.cases_of_parse? (fun c member => isHostChar_of_isDigit (all c member)) read with
    ⟨-, number, address⟩ | ⟨-, domain⟩
  · cases address
  · have letters : digits.map Char.toLower = "http".toList := by
      rw [UrlHost.domain.inj domain, String.toList_ofList]
    cases digits with
    | nil => exact nonempty rfl
    | cons first rest =>
        have digit := all first List.mem_cons_self
        have letter : first.toLower = 'h' := (List.cons.inj letters).1
        exact forall_ascii (P := fun c => c.isDigit = true → c.toLower ≠ 'h') (by decide)
          (ascii_of_isHostChar (isHostChar_of_isDigit digit)) digit letter

/-- The two readings differ.  With the server name for a scheme the port stands where
the host is read, and it is no host of that name. -/
theorem readings_differ {url : Url} {digits : List Char} (port : address.port = some digits)
    (read : Url.readAfterScheme? address.lowerName (digits ++ Url.tidyEnd address.tail) = some url) :
    Url.parse? ("http://" ++ address.written) ≠ some url := by
  intro same
  -- Equal URLs have equal schemes, so the server name is `http` and stands for itself.
  rw [parse?_of_http] at same
  have http : address.lowerName = "http" :=
    (Url.scheme_of_readAfterScheme? read).symm.trans (Url.scheme_of_readAuthority? same)
  have domain : url.host = some (.domain "http") := by
    have lower : address.name.map Char.toLower = "http".toList := by
      rw [← http, lowerName, String.toList_ofList]
    obtain ⟨host, found, held⟩ := Url.host_of_readAuthority? address.endsServer_tidied same
    rcases UrlHost.cases_of_parse? address.plain found with ⟨numeric, -⟩ | ⟨-, rfl⟩
    · rw [lower] at numeric
      exact absurd numeric (by decide)
    · rw [held, ← http]
      rfl
  -- As it stands, the digits are read where the server is.
  let server := address.portAsServer digits port
  have whole : server.text = digits := List.append_nil digits
  rw [http, Url.readAfterScheme?_http, ← whole, dropWhile_isSlash_server] at read
  obtain ⟨host, found, held⟩ := Url.host_of_readAuthority? address.endsServer_tidied read
  rw [domain, Option.some.injEq] at held
  obtain ⟨nonempty, all⟩ := address.numbered digits port
  exact digits_not_http nonempty all (held ▸ found)

/-- A port does not begin with a slash. -/
theorem head?_port_append {digits : List Char} (port : address.port = some digits)
    (rest : List Char) : (digits ++ rest).head? ≠ some '/' := by
  obtain ⟨nonempty, all⟩ := address.numbered digits port
  cases digits with
  | nil => exact absurd rfl nonempty
  | cons first others =>
      rintro ⟨⟩
      exact absurd (all '/' List.mem_cons_self) (by decide)

theorem result_eq_ok_iff {found : Option Url} {url : Url} :
    address.result found = .ok url ↔ found = some url := by
  cases found <;> simp [result]

theorem normalizeUrl_written :
    normalizeUrl address.written = address.result (Url.parse? (withScheme address.written)) := by
  unfold normalizeUrl
  cases Url.parse? (withScheme address.written) <;> rfl

theorem normalizeUrl_of_marked (marked : address.Marked) :
    normalizeUrl address.written = address.result (Url.parse? address.written) := by
  rw [normalizeUrl_written, address.withScheme_of_marked marked]

theorem normalizeUrl_of_not_marked (unmarked : ¬ address.Marked) :
    normalizeUrl address.written = address.asHttp := by
  rw [normalizeUrl_written, address.withScheme_of_not_marked unmarked, asHttp]

end BareAddress

/-- An address without a scheme is read as one of `http` unless its path, query or
fragment holds the mark of a scheme.  With such a mark in it there is no URL, or, where
the server name begins with a letter and a port follows, one whose scheme is that name. -/
theorem bare_address_gets_http_unless_marked (address : BareAddress) :
    (∀ url, address.asHttp = .ok url → url.scheme = "http") ∧
    (¬ address.Marked → normalizeUrl address.written = address.asHttp) ∧
    (address.Marked → address.schemeLike = false →
      normalizeUrl address.written = .error (.invalidUrl address.written)) ∧
    (address.Marked → address.schemeLike = true →
      (∀ url, normalizeUrl address.written = .ok url →
        url.scheme = address.lowerName ∧ address.asHttp ≠ .ok url) ∧
      (Url.isSpecial address.lowerName = false →
        ∃ url, normalizeUrl address.written = .ok url)) := by
  refine ⟨?_, address.normalizeUrl_of_not_marked, ?_, ?_⟩
  · intro url read
    have found := address.result_eq_ok_iff.1 read
    rw [address.parse?_of_http] at found
    exact Url.scheme_of_readAuthority? found
  · intro marked schemeless
    rcases address.parse?_written with ⟨-, unread⟩ | ⟨schemeLike, -⟩
    · rw [address.normalizeUrl_of_marked marked, unread]
      rfl
    · rw [schemeless] at schemeLike
      cases schemeLike
  · intro marked schemeLike
    rcases address.parse?_written with ⟨schemeless, -⟩ | ⟨-, digits, port, written⟩
    · rw [schemeLike] at schemeless
      cases schemeless
    · simp only [address.normalizeUrl_of_marked marked, address.result_eq_ok_iff,
        BareAddress.asHttp, Ne, written]
      constructor
      · intro url read
        exact ⟨Url.scheme_of_readAfterScheme? read, address.readings_differ port read⟩
      · intro other
        exact ⟨_, Url.readAfterScheme?_plain other (address.head?_port_append port _)⟩

-- The server name has become the scheme of a URL without a server.
example :
    normalizeUrl "localhost:3000/?to=http://example.com" =
      .ok
        { scheme := "localhost"
          hasAuthority := false
          userInfo := ""
          host := none
          port := none
          path := "3000/"
          query := some "to=http://example.com"
          fragment := none } := by
  rfl

/-- The address `localhost/?to=http://example.com`. -/
def addressInQuery : BareAddress where
  name := "localhost".toList
  port := none
  named := by decide
  plain := List.all_eq_true.1 rfl
  numbered := nofun
  path := some []
  query := some "to=http://example.com".toList
  fragment := none

/-- It names a URL of `http`, and is refused for the one that its query holds. -/
theorem address_refused_for_its_query :
    addressInQuery.asHttp =
        .ok
          { scheme := "http"
            hasAuthority := true
            userInfo := ""
            host := some (.domain "localhost")
            port := none
            path := "/"
            query := some "to=http://example.com"
            fragment := none } ∧
      normalizeUrl addressInQuery.written = .error (.invalidUrl addressInQuery.written) := by
  constructor
  · rfl
  · rfl

end WebHost
