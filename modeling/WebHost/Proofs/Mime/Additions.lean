/-
Module: WebHost.Proofs.Mime.Additions
Purpose: The content type of an extension after any additions to the standard table.
Main exports:
  SmallForm, SpellsAs, spellsAs_iff, lastAdded?, MimeTable.added, MimeTable.get_add,
  MimeTable.lookup_added, types_follow_additions
-/
import WebHost.Mime
import WebHost.Proofs.Lists
import WebHost.Proofs.Text.Pieces
import WebHost.Proofs.Text.Utf8

namespace WebHost

open Text

/-!
An extension may be spelled with any number of dots before it and in capitals or small
letters.  Whatever the spelling, what the table gives for it is the type that was added
last for another spelling of the same extension.
-/

/-! ### Spellings of an extension -/

/-- A letter of ASCII in capitals becomes the small one, and nothing else changes. -/
def SmallForm (character small : Char) : Prop :=
  if 65 ≤ character.toNat ∧ character.toNat ≤ 90 then small.toNat = character.toNat + 32
  else small = character

/-- Without the dots before it, and with small letters for the capitals of ASCII, an
extension is this normal form. -/
def SpellsAs (extension normal : String) : Prop :=
  ∃ dots body, extension.toList = dots ++ body ∧ (∀ character ∈ dots, character = '.') ∧
    body.head? ≠ some '.' ∧ List.Forall₂ SmallForm body normal.toList

theorem smallForm_toLower (character : Char) : SmallForm character character.toLower := by
  by_cases ascii : character.toNat < 128
  · exact forall_ascii (P := fun c => if 65 ≤ c.toNat ∧ c.toNat ≤ 90
      then c.toLower.toNat = c.toNat + 32 else c.toLower = c) (by decide) ascii
  · rw [toLower_of_not_ascii ascii, SmallForm, if_neg (by omega)]

theorem smallForm_iff (character small : Char) :
    SmallForm character small ↔ small = character.toLower := by
  constructor
  · intro form
    have own := smallForm_toLower character
    unfold SmallForm at form own
    split at form
    · rename_i capital
      rw [if_pos capital] at own
      exact Char.toNat_inj.1 (form.trans own.symm)
    · rename_i other
      rw [if_neg other] at own
      exact form.trans own.symm
  · rintro rfl
    exact smallForm_toLower character

theorem forall₂_smallForm_iff (body normal : List Char) :
    List.Forall₂ SmallForm body normal ↔ body.map Char.toLower = normal := by
  induction body generalizing normal with
  | nil => simp [eq_comm]
  | cons first rest ih =>
      cases normal with
      | nil => simp
      | cons small others =>
          rw [List.forall₂_cons, smallForm_iff, ih, List.map_cons, List.cons.injEq, eq_comm]

/-- Every extension has one normal form. -/
theorem spellsAs_iff (extension normal : String) :
    SpellsAs extension normal ↔ normalExtension extension = normal := by
  have listed : normalExtension extension = normal ↔
      (extension.toList.dropWhile (· == '.')).map Char.toLower = normal.toList := by
    rw [normalExtension, ← String.toList_inj, String.toList_ofList]
  rw [listed]
  constructor
  · rintro ⟨dots, body, split, dotted, starts, small⟩
    have all : ∀ character ∈ dots, (character == '.') = true := fun character member =>
      beq_iff_eq.2 (dotted character member)
    have stays : body.dropWhile (· == '.') = body :=
      dropWhile_of_head? fun character first => by
        rw [beq_eq_false_iff_ne]
        rintro rfl
        exact starts first
    rw [split, List.dropWhile_append_of_pos all, stays]
    exact (forall₂_smallForm_iff _ _).1 small
  · intro small
    refine ⟨extension.toList.takeWhile (· == '.'), extension.toList.dropWhile (· == '.'),
      List.takeWhile_append_dropWhile.symm, fun character member => ?_, fun first => ?_,
      (forall₂_smallForm_iff _ _).2 small⟩
    · simpa using List.mem_takeWhile_imp member
    · have stays := List.head?_dropWhile_not (· == '.') extension.toList
      simp [first] at stays

instance (extension normal : String) : Decidable (SpellsAs extension normal) :=
  decidable_of_iff _ (spellsAs_iff extension normal).symm

/-! ### Additions -/

/-- The type that was added last for some spelling of an extension in normal form. -/
def lastAdded? (additions : List (String × String)) (normal : String) : Option String :=
  (additions.filter fun addition => SpellsAs addition.1 normal).getLast?.map (·.2)

namespace MimeTable

/-- The table after some additions to the standard one. -/
def added (additions : List (String × String)) : MimeTable :=
  additions.foldl (fun table addition => table.add addition.1 addition.2) standard

variable (table : MimeTable)

theorem lookup_add (extension contentType key : String) :
    (table.add extension contentType).entries.lookup key =
      if key = normalExtension extension then some contentType else table.entries.lookup key :=
  lookup_cons_ite _ _ _ _

/-- An addition is for the spellings of its extension, and leaves the others what they had. -/
theorem get_add (spelling contentType extension : String) :
    (table.add spelling contentType).get extension =
      if normalExtension extension = normalExtension spelling then contentType
      else table.get extension := by
  simp only [get, lookup_add]
  split <;> rfl

theorem get_congr {one other : String} (same : normalExtension one = normalExtension other) :
    table.get one = table.get other := by
  simp only [get, same]

/-- The same additions to tables that give the same types. -/
theorem get_foldl_congr {one other : MimeTable} (same : one.get = other.get)
    (additions : List (String × String)) :
    (additions.foldl (fun table addition => table.add addition.1 addition.2) one).get =
      (additions.foldl (fun table addition => table.add addition.1 addition.2) other).get := by
  induction additions generalizing one other with
  | nil => exact same
  | cons addition rest ih =>
      refine ih (funext fun extension => ?_)
      rw [get_add, get_add, same]

/-- Additions for different extensions can change places. -/
theorem get_add_comm {one other : String} (apart : normalExtension one ≠ normalExtension other)
    (first second : String) :
    ((table.add one first).add other second).get =
      ((table.add other second).add one first).get := by
  funext extension
  simp only [get_add]
  by_cases here : normalExtension extension = normalExtension one
  · rw [if_pos here, if_neg (here ▸ apart), if_pos here]
  · simp only [if_neg here]

/-- What stands under a normal form: the type that was added last, or else the standard one. -/
theorem lookup_added (additions : List (String × String)) (normal : String) :
    (added additions).entries.lookup normal =
      (lastAdded? additions normal).or (standardTypes.lookup normal) := by
  have one : ∀ (table : MimeTable) (write : String × String) (key : String),
      ({ entries := write :: table.entries } : MimeTable).entries.lookup key =
        if key = write.1 then some write.2 else table.entries.lookup key :=
    fun table write key => lookup_cons_ite write.1 key write.2 table.entries
  have written := foldl_writes_or (fun (table : MimeTable) key => table.entries.lookup key) one
    standard (additions.map fun addition => (normalExtension addition.1, addition.2)) normal
  have spelled : additions.filter (fun addition => normalExtension addition.1 = normal) =
      additions.filter fun addition => SpellsAs addition.1 normal :=
    List.filter_congr fun addition _ => decide_eq_decide.2 (spellsAs_iff _ _).symm
  rw [List.foldl_map, lastWritten?, List.filter_map, List.getLast?_map, Option.map_map] at written
  rw [lastAdded?, ← spelled]
  exact written

end MimeTable

/-- After any additions the type of an extension, which has one normal form, is the one that
was added last for any of its spellings, or else the standard one, or else a text of that
name.  So all spellings of an extension get the same; additions for different extensions
can change places among any others; and an addition changes only what the spellings of its
own extension get. -/
theorem types_follow_additions (additions : List (String × String)) :
    (∀ extension, ∃! normal, SpellsAs extension normal) ∧
      (∀ extension normal, SpellsAs extension normal →
        (MimeTable.added additions).get extension =
          ((lastAdded? additions normal).or (standardTypes.lookup normal)).getD
            ("text/" ++ normal)) ∧
      (∀ one other normal, SpellsAs one normal → SpellsAs other normal →
        (MimeTable.added additions).get one = (MimeTable.added additions).get other) ∧
      (∀ one other : String × String,
        (∀ normal, SpellsAs one.1 normal → ¬ SpellsAs other.1 normal) →
        ∀ later, (MimeTable.added (additions ++ one :: other :: later)).get =
          (MimeTable.added (additions ++ other :: one :: later)).get) ∧
      ∀ (addition : String × String) (extension : String),
        (MimeTable.added (additions ++ [addition])).get extension ≠
          (MimeTable.added additions).get extension →
        ∃ normal, SpellsAs addition.1 normal ∧ SpellsAs extension normal := by
  refine ⟨fun extension => ?_, fun extension normal spells => ?_,
    fun one other normal first second => ?_, fun one other apart later => ?_,
    fun addition extension changed => ?_⟩
  · exact ⟨normalExtension extension, (spellsAs_iff _ _).2 rfl,
      fun normal spells => ((spellsAs_iff _ _).1 spells).symm⟩
  · rw [← MimeTable.lookup_added, ← (spellsAs_iff _ _).1 spells]
    rfl
  · have same := ((spellsAs_iff _ _).1 first).trans ((spellsAs_iff _ _).1 second).symm
    exact MimeTable.get_congr _ same
  · have different : normalExtension one.1 ≠ normalExtension other.1 := fun same =>
      apart _ ((spellsAs_iff _ _).2 same) ((spellsAs_iff _ _).2 rfl)
    rw [MimeTable.added, MimeTable.added, List.foldl_append, List.foldl_append]
    exact MimeTable.get_foldl_congr (MimeTable.get_add_comm _ different _ _) later
  · rw [MimeTable.added, List.foldl_concat, MimeTable.get_add] at changed
    by_contra unadded
    refine changed (if_neg fun same => unadded ⟨_, (spellsAs_iff _ _).2 rfl, ?_⟩)
    exact (spellsAs_iff _ _).2 same

/-- Capitals beyond ASCII are no small letters, dots within an extension stay, and the
latest of two additions counts. -/
example :
    let table := MimeTable.added [("tar.É", "a/b"), (".JS", "c/d"), ("..Tar.É", "e/f")]
    table.get ".TAR.É" = "e/f" ∧ table.get "tar.é" = "text/tar.é" ∧ table.get "Js" = "c/d" ∧
      table.get ".CSS" = "text/css" ∧ table.get "..." = "text/" := by
  decide +kernel

end WebHost
