/-
Module: WebHost.Proofs.Server.Paths
Purpose: What the path of a request looks like before and after decoding.
Main exports:
  Incoming.Received, Incoming.bare, Target.path_cases, head?_of_percentDecodeText?,
  IsServicePath, splitServicePath_of_slash, splitServicePath_of_received
-/
import WebHost.Proofs.Text.Utf8
import WebHost.Server.Route

namespace WebHost

open Text

/-!
A target that a request line can write has a path that starts with a slash,
unless it is `*` or a lone authority.  Decoding leaves a leading slash where it
is, so a decoded path that names a service starts with one as well.
-/

/-- Some text of a request line is read as the target of this request. -/
def Incoming.Received (incoming : Incoming) : Prop :=
  ∃ text, Target.parse? text = some incoming.target

/-- A request with a path and nothing else: no query, no fields and no content. -/
def Incoming.bare (method path : String) : Incoming :=
  { method := method
    target := { authority := none, path := path, query := none }
    fields := Fields.empty
    body := some []
    peer := none
    upgradable := false }

/-! ### Targets -/

namespace Target

/-- What stands after the longest run of kept items starts with one that is not
kept. -/
theorem head?_drop_takeWhile {α : Type} {keeps : α → Bool} {items : List α} {first : α}
    (starts : (items.drop (items.takeWhile keeps).length).head? = some first) :
    keeps first = false := by
  have rest : items.drop (items.takeWhile keeps).length = items.dropWhile keeps :=
    calc items.drop (items.takeWhile keeps).length
        = (items.takeWhile keeps ++ items.dropWhile keeps).drop (items.takeWhile keeps).length := by
          rw [List.takeWhile_append_dropWhile]
      _ = items.dropWhile keeps := List.drop_left
  rw [rest] at starts
  simpa [starts] using List.head?_dropWhile_not keeps items

theorem readPath?_eq_takeWhile {characters path : List Char} {query : Option (List Char)}
    (read : readPath? characters = some (path, query)) :
    path = characters.takeWhile fun c => c != '?' && c != '#' := by
  unfold readPath? at read
  dsimp only at read
  split at read
  · cases read
  · split at read
    · split at read
      · cases read
        rfl
      · cases read
    · cases read
      rfl

/-- A path that is not empty starts as the text it was read from. -/
theorem head?_of_readPath? {characters path : List Char} {query : Option (List Char)}
    (read : readPath? characters = some (path, query)) (nonempty : path ≠ []) :
    ∃ first, path.head? = some first ∧ characters.head? = some first ∧ first ≠ '?' ∧
      first ≠ '#' := by
  have taken := readPath?_eq_takeWhile read
  cases characters with
  | nil => exact absurd taken nonempty
  | cons first rest =>
      rw [List.takeWhile_cons] at taken
      split at taken
      · rename_i kept
        subst taken
        exact ⟨first, rfl, rfl, by simpa using kept⟩
      · exact absurd taken nonempty

/-- An authority ends at the end of the text or where the path, the query or
the fragment starts. -/
theorem head?_of_readAuthority? {characters authority rest : List Char} {first : Char}
    (read : readAuthority? characters = some (authority, rest))
    (starts : rest.head? = some first) : first = '/' ∨ first = '?' ∨ first = '#' := by
  unfold readAuthority? at read
  dsimp only at read
  split at read
  · split at read
    · cases read
      have ends := head?_drop_takeWhile starts
      by_cases slash : first = '/'
      · exact Or.inl slash
      · by_cases question : first = '?'
        · exact Or.inr (Or.inl question)
        · simp only [bne, Bool.and_eq_false_iff, Bool.not_eq_false', beq_iff_eq] at ends
          simpa [slash, question] using ends
    · cases read
  · cases read

/-- The path of an address starts with a slash, written or understood. -/
theorem slash_of_readPath? {characters path : List Char} {query : Option (List Char)}
    (read : readPath? characters = some (path, query))
    (starts : ∀ first, characters.head? = some first → first = '/' ∨ first = '?' ∨ first = '#')
    (nonempty : path ≠ []) : path.head? = some '/' := by
  obtain ⟨first, atPath, atText, question, hash⟩ := head?_of_readPath? read nonempty
  rcases starts first atText with rfl | same | same
  · exact atPath
  · exact absurd same question
  · exact absurd same hash

/-- The paths of targets. -/
theorem path_cases {text : String} {target : Target} (parsed : parse? text = some target) :
    target.path = "" ∨ target.path = "*" ∨ target.path.toList.head? = some '/' := by
  unfold parse? at parsed
  simp only [bind] at parsed
  split at parsed
  · cases parsed
  · split at parsed
    · cases parsed
      exact Or.inr (Or.inl rfl)
    · split at parsed
      · rename_i slash
        obtain ⟨⟨path, query⟩, read, same⟩ := Option.bind_eq_some_iff.1 parsed
        cases same
        have starts : ∀ first, text.toList.head? = some first →
            first = '/' ∨ first = '?' ∨ first = '#' := by
          intro first found
          rw [slash] at found
          exact Or.inl (Option.some.inj found).symm
        by_cases nonempty : path = []
        · exact Or.inl (by simp [nonempty])
        · exact Or.inr (Or.inr (by simpa using slash_of_readPath? read starts nonempty))
      · obtain ⟨after, _, parsed⟩ := Option.bind_eq_some_iff.1 parsed
        split at parsed
        · obtain ⟨⟨authority, rest⟩, _, parsed⟩ := Option.bind_eq_some_iff.1 parsed
          split at parsed
          · cases parsed
            exact Or.inl rfl
          · cases parsed
        · obtain ⟨⟨authority, rest⟩, cut, parsed⟩ := Option.bind_eq_some_iff.1 parsed
          split at parsed
          · cases parsed
          · obtain ⟨⟨path, query⟩, read, same⟩ := Option.bind_eq_some_iff.1 parsed
            cases same
            by_cases nonempty : path = []
            · exact Or.inr (Or.inr (by simp [nonempty]))
            · have slash := slash_of_readPath? read
                (fun first found => head?_of_readAuthority? cut found) nonempty
              exact Or.inr (Or.inr (by simpa [nonempty] using slash))

end Target

/-! ### Decoding -/

/-- A byte that is no percent sign stays in front. -/
theorem percentDecode_cons {first : UInt8} (plain : first ≠ 37) (rest : Bytes) :
    percentDecode (first :: rest) = first :: percentDecode rest := by
  match rest with
  | [] => simp [percentDecode]
  | [second] => simp [percentDecode]
  | second :: third :: others => rw [percentDecode, if_neg plain]

/-- A slash in front of a path stays there. -/
theorem head?_of_percentDecodeText? {path decoded : String}
    (slash : path.toList.head? = some '/') (read : percentDecodeText? path = some decoded) :
    decoded.toList.head? = some '/' := by
  obtain ⟨rest, characters⟩ : ∃ rest, path.toList = '/' :: rest := by
    cases characters : path.toList with
    | nil => simp [characters] at slash
    | cons first rest => exact ⟨rest, by simpa [characters] using slash⟩
  have bytes : encode path = 47 :: rest.flatMap String.utf8EncodeChar := by
    rw [encode_eq_flatMap, characters, List.flatMap_cons]
    rfl
  have shown := decode?_eq_some_iff.1 read
  rw [bytes, percentDecode_cons (by decide)] at shown
  exact head?_of_ascii_byte (by decide) shown.symm

theorem percentDecodeText?_empty : percentDecodeText? "" = some "" :=
  decode?_encode ""

theorem percentDecodeText?_star : percentDecodeText? "*" = some "*" :=
  decode?_encode "*"

/-! ### Services -/

/-- The name of a service in a path, and the path of an entry point after it. -/
structure IsServicePath (path service rest : String) : Prop where
  nonempty : service ≠ ""
  noSlash : '/' ∉ service.toList
  path_eq : path = "/" ++ service ++ "/" ++ rest

/-- What is split: the path without a slash in front. -/
def strippedPath (path : String) : List Char :=
  match path.toList with
  | '/' :: rest => rest
  | rest => rest

/-- The names on both sides of a cut, if the first one is not empty. -/
def namesOfCut : Option (List Char × List Char) → Option (String × String)
  | some ([], _) => none
  | some (service, rest) => some (String.ofList service, String.ofList rest)
  | none => none

theorem splitServicePath_eq_namesOfCut (path : String) :
    splitServicePath path = namesOfCut (cutAt '/' (strippedPath path)) := rfl

theorem splitServicePath_eq_some_iff_cutAt {path service rest : String} :
    splitServicePath path = some (service, rest) ↔
      service ≠ "" ∧ cutAt '/' (strippedPath path) = some (service.toList, rest.toList) := by
  rw [splitServicePath_eq_namesOfCut]
  cases cutAt '/' (strippedPath path) with
  | none => simp [namesOfCut]
  | some cut =>
      obtain ⟨name, after⟩ := cut
      cases name with
      | nil =>
          simp only [namesOfCut, reduceCtorEq, false_iff, Option.some.injEq, Prod.mk.injEq,
            not_and]
          exact fun nonempty empty => absurd (String.toList_eq_nil_iff.1 empty.symm) nonempty
      | cons first others =>
          simp only [namesOfCut, Option.some.injEq, Prod.mk.injEq]
          constructor
          · rintro ⟨rfl, rfl⟩
            simp
          · rintro ⟨_, atName, atRest⟩
            rw [atName, atRest, String.ofList_toList, String.ofList_toList]
            exact ⟨rfl, rfl⟩

theorem strippedPath_of_slash {path : String} {rest : List Char}
    (slash : path.toList = '/' :: rest) : strippedPath path = rest := by
  simp [strippedPath, slash]

/-- A path that starts with a slash names a service right after it. -/
theorem splitServicePath_of_slash {path service rest : String}
    (slash : path.toList.head? = some '/') :
    splitServicePath path = some (service, rest) ↔ IsServicePath path service rest := by
  obtain ⟨others, characters⟩ : ∃ others, path.toList = '/' :: others := by
    cases characters : path.toList with
    | nil => simp [characters] at slash
    | cons first others => exact ⟨others, by simpa [characters] using slash⟩
  rw [splitServicePath_eq_some_iff_cutAt, strippedPath_of_slash characters, cutAt_eq_some_iff]
  constructor
  · rintro ⟨nonempty, same, noSlash⟩
    refine ⟨nonempty, noSlash, ?_⟩
    rw [← String.toList_inj, characters, same]
    simp
  · rintro ⟨nonempty, noSlash, rfl⟩
    refine ⟨nonempty, ?_, noSlash⟩
    simpa using characters.symm

/-- A path without a slash names no service. -/
theorem splitServicePath_of_noSlash {path : String} (noSlash : '/' ∉ path.toList)
    (service rest : String) : splitServicePath path ≠ some (service, rest) := by
  rw [Ne, splitServicePath_eq_some_iff_cutAt, cutAt_eq_some_iff]
  rintro ⟨_, same, _⟩
  have member : '/' ∈ strippedPath path := by simp [same]
  unfold strippedPath at member
  split at member
  · rename_i others characters
    exact noSlash (by simp [characters])
  · exact noSlash member

/-- A received request names a service in the way that its decoded path is
written. -/
theorem splitServicePath_of_received {incoming : Incoming} {path service rest : String}
    (received : incoming.Received)
    (decoded : percentDecodeText? incoming.target.path = some path) :
    splitServicePath path = some (service, rest) ↔ IsServicePath path service rest := by
  have noService : '/' ∉ path.toList →
      (splitServicePath path = some (service, rest) ↔ IsServicePath path service rest) := by
    intro noSlash
    refine iff_of_false (splitServicePath_of_noSlash noSlash service rest) ?_
    rintro ⟨_, _, rfl⟩
    exact noSlash (by simp)
  obtain ⟨text, parsed⟩ := received
  rcases Target.path_cases parsed with empty | star | slash
  · rw [empty, percentDecodeText?_empty] at decoded
    cases decoded
    exact noService (by decide)
  · rw [star, percentDecodeText?_star] at decoded
    cases decoded
    exact noService (by decide)
  · exact splitServicePath_of_slash (head?_of_percentDecodeText? slash decoded)

end WebHost
