/-
Module: WebHost.Proofs.Protocol.Lines
Purpose: What header lines offer, whatever bytes they hold, and how much of it a
  server reads.
Main exports:
  Offers, OffersAnything, Readable, allOffers, readableOffers, mem_allOffers_iff,
  map_encode_offeredProtocols, mem_offeredProtocols_iff,
  offeredProtocols_eq_nil_iff, exists_value_of_offers
-/
import Mathlib.Data.List.Basic
import WebHost.Proofs.Header.Values
import WebHost.Proofs.Text.Pieces
import WebHost.Protocol.Name

namespace WebHost

open Text

/-!
A line of offers is a list of bytes, of which a header allows more than text can
show.  What stands between its commas is offered, spaces and tabs around it
apart.  The server reads all offers of a line, or none: none if a single byte of
the line lies beyond ASCII.
-/

/-! ### Offers in bytes -/

/-- The byte that separates offers. -/
def commaByte : UInt8 := 44

/-- A byte that may stand around an offer: a space or a tab. -/
def isGapByte (byte : UInt8) : Bool := byte == 32 || byte == 9

/-- A name is one of the offers of a line. -/
structure Offers (line : FieldValue) (name : String) : Prop where
  named : name ≠ ""
  stands : ∃ piece ∈ line.bytes.splitOn commaByte, trimWhile isGapByte piece = encode name

/-- The offers of a line, in their order. -/
def lineOffers (line : FieldValue) : List Bytes :=
  ((line.bytes.splitOn commaByte).map (trimWhile isGapByte)).filter (· ≠ [])

/-- The line holds more than commas, spaces and tabs. -/
def OffersAnything (line : FieldValue) : Prop :=
  ∃ byte ∈ line.bytes, byte ≠ commaByte ∧ isGapByte byte = false

/-- The line is ASCII. -/
def Readable (line : FieldValue) : Prop :=
  ∀ byte ∈ line.bytes, byte.toNat < 128

instance (line : FieldValue) : Decidable (Readable line) :=
  inferInstanceAs (Decidable (∀ byte ∈ line.bytes, byte.toNat < 128))

/-- The offers on all lines, in their order. -/
def allOffers (fields : Fields) : List Bytes :=
  (fields.values .socketProtocol).flatMap lineOffers

/-- The offers on the readable lines, in their order. -/
def readableOffers (fields : Fields) : List Bytes :=
  ((fields.values .socketProtocol).filter fun line => decide (Readable line)).flatMap lineOffers

theorem encode_mem_lineOffers_iff {line : FieldValue} {name : String} :
    encode name ∈ lineOffers line ↔ Offers line name := by
  unfold lineOffers
  rw [List.mem_filter, List.mem_map, decide_eq_true_eq]
  constructor
  · rintro ⟨stands, named⟩
    refine ⟨?_, stands⟩
    rintro rfl
    exact named rfl
  · rintro ⟨named, stands⟩
    exact ⟨stands, fun empty => named (encode_injective empty)⟩

theorem mem_allOffers_iff {fields : Fields} {name : String} :
    encode name ∈ allOffers fields ↔
      ∃ line ∈ fields.values .socketProtocol, Offers line name := by
  unfold allOffers
  simp only [List.mem_flatMap, encode_mem_lineOffers_iff]

/-! ### ASCII as text -/

/-- ASCII can be told by going through the bytes. -/
theorem ascii_of_all {bytes : Bytes}
    (all : bytes.all (fun byte => decide (byte.toNat < 128)) = true) :
    ∀ byte ∈ bytes, byte.toNat < 128 :=
  fun byte member => of_decide_eq_true (List.all_eq_true.1 all byte member)

/-- A legal byte is visible if it is ASCII. -/
theorem isVisibleByte_iff_ascii {line : FieldValue} {byte : UInt8}
    (member : byte ∈ line.bytes) : isVisibleByte byte = true ↔ byte.toNat < 128 := by
  have legal := List.all_eq_true.1 line.legal byte member
  rw [isValueByte_iff] at legal
  rw [isVisibleByte_iff]
  omega

/-- A line is read as text if it is ASCII, and then as the text with its bytes. -/
theorem text?_eq_some_iff_readable {line : FieldValue} {text : String} :
    line.text? = some text ↔ Readable line ∧ line.bytes = encode text := by
  have visible : line.bytes.all isVisibleByte = true ↔ Readable line := by
    rw [List.all_eq_true]
    exact forall₂_congr fun byte member => isVisibleByte_iff_ascii member
  unfold FieldValue.text?
  rw [Option.ite_none_right_eq_some, visible, Option.some.injEq]
  refine and_congr_right fun readable => ?_
  have written : encode (String.ofList (line.bytes.map byteChar)) = line.bytes :=
    encode_byteChars readable
  constructor
  · rintro rfl
    exact written.symm
  · intro held
    exact encode_injective (written.trans held)

/-! ### What a server reads -/

/-- Around the offers of a readable line, blanks are spaces and tabs. -/
theorem isBlank_byteChar {line : FieldValue} (readable : Readable line) {byte : UInt8}
    (member : byte ∈ line.bytes) : isBlank (byteChar byte) = isGapByte byte := by
  have visible := (isVisibleByte_iff_ascii member).2 (readable byte member)
  rw [isVisibleByte_iff] at visible
  have numbers : (9 : UInt8).toNat = 9 ∧ (32 : UInt8).toNat = 32 := ⟨rfl, rfl⟩
  rw [Bool.eq_iff_iff]
  unfold isGapByte
  rw [Bool.or_eq_true, beq_iff_eq, beq_iff_eq, ← UInt8.toNat_inj, ← UInt8.toNat_inj]
  simp only [isBlank, blankRanges, toNat_byteChar, List.any_cons, List.any_nil, Bool.or_false,
    Bool.or_eq_true, Bool.and_eq_true, decide_eq_true_eq]
  omega

/-- What is read from a readable line is what it offers, in the same order. -/
theorem map_encode_splitOffer {line : FieldValue} {text : String}
    (read : line.text? = some text) : (splitOffer text).map encode = lineOffers line := by
  obtain ⟨readable, held⟩ := text?_eq_some_iff_readable.1 read
  have characters : text.toList = line.bytes.map byteChar := by
    have written : encode (String.ofList (line.bytes.map byteChar)) = encode text :=
      (encode_byteChars readable).trans held
    rw [← encode_injective written, String.toList_ofList]
  have pieces : text.toList.splitOn ',' =
      (line.bytes.splitOn commaByte).map (List.map byteChar) := by
    rw [characters]
    exact splitOn_map byteChar_injective commaByte line.bytes
  have inside : ∀ {piece}, piece ∈ line.bytes.splitOn commaByte → ∀ byte ∈ piece,
      byte ∈ line.bytes := fun among byte member => mem_of_mem_piece among member
  -- Trimming a piece of the text is trimming the piece of the line.
  have trimmed : ((line.bytes.splitOn commaByte).map (List.map byteChar)).map trimBlanks =
      ((line.bytes.splitOn commaByte).map (trimWhile isGapByte)).map (List.map byteChar) := by
    rw [List.map_map, List.map_map]
    refine List.map_congr_left fun piece among => ?_
    show trimWhile isBlank (piece.map byteChar) = (trimWhile isGapByte piece).map byteChar
    rw [trimWhile_map]
    congr 1
    exact trimWhile_congr fun byte member => isBlank_byteChar readable (inside among byte member)
  have kept : ((· ≠ []) : List Char → Bool) ∘ List.map byteChar = ((· ≠ []) : Bytes → Bool) := by
    funext piece
    simp
  unfold splitOffer lineOffers
  rw [pieces, trimmed, List.filter_map, kept, List.map_map, List.map_map]
  refine (List.map_congr_left fun left member => ?_).trans (List.map_id _)
  obtain ⟨piece, among, rfl⟩ := List.mem_map.1 (List.mem_filter.1 member).1
  exact encode_byteChars fun byte held =>
    readable byte (inside among byte (mem_of_mem_trimWhile held))

/-- The offers that are read from a readable line are all that it makes. -/
theorem mem_splitOffer_iff {line : FieldValue} {text name : String}
    (read : line.text? = some text) : name ∈ splitOffer text ↔ Offers line name := by
  rw [← encode_mem_lineOffers_iff, ← map_encode_splitOffer read]
  exact (List.mem_map_of_injective fun _ _ => encode_injective).symm

/-- The server reads the offers of the readable lines in their order. -/
theorem map_encode_offeredProtocols (fields : Fields) :
    (offeredProtocols fields).map encode = readableOffers fields := by
  unfold offeredProtocols readableOffers
  induction fields.values .socketProtocol with
  | nil => rfl
  | cons line rest ih =>
      by_cases readable : Readable line
      · have read := text?_eq_some_iff_readable.2 ⟨readable, (encode_byteChars readable).symm⟩
        rw [List.filterMap_cons_some read, List.flatMap_cons, List.map_append,
          map_encode_splitOffer read, ih, List.filter_cons, if_pos (decide_eq_true readable),
          List.flatMap_cons]
      · have unread : line.text? = none := Option.eq_none_iff_forall_ne_some.2
          fun text read => readable (text?_eq_some_iff_readable.1 read).1
        rw [List.filterMap_cons_none unread, ih, List.filter_cons, if_neg (by simpa using readable)]

/-- The server reads the offers of the readable lines, and no others. -/
theorem mem_offeredProtocols_iff {fields : Fields} {name : String} :
    name ∈ offeredProtocols fields ↔
      ∃ line ∈ fields.values .socketProtocol, Readable line ∧ Offers line name := by
  unfold offeredProtocols
  simp only [List.mem_flatMap, List.mem_filterMap]
  constructor
  · rintro ⟨text, ⟨line, among, read⟩, offered⟩
    exact ⟨line, among, (text?_eq_some_iff_readable.1 read).1, (mem_splitOffer_iff read).1 offered⟩
  · rintro ⟨line, among, readable, offers⟩
    have read := text?_eq_some_iff_readable.2 ⟨readable, (encode_byteChars readable).symm⟩
    exact ⟨_, ⟨line, among, read⟩, (mem_splitOffer_iff read).2 offers⟩

/-- A readable line that holds more than separators offers some name. -/
theorem offersAnything_iff {line : FieldValue} (readable : Readable line) :
    OffersAnything line ↔ ∃ name, Offers line name := by
  constructor
  · rintro ⟨byte, member, apart, solid⟩
    obtain ⟨piece, among, inside⟩ := (mem_iff_of_splitOn apart).1 member
    have kept : trimWhile isGapByte piece ≠ [] := by
      intro gone
      rw [trimWhile_eq_nil_iff.1 gone byte inside] at solid
      cases solid
    have written : encode (String.ofList ((trimWhile isGapByte piece).map byteChar)) =
        trimWhile isGapByte piece :=
      encode_byteChars fun other left =>
        readable other (mem_of_mem_piece among (mem_of_mem_trimWhile left))
    refine ⟨_, ?_, piece, among, written.symm⟩
    intro empty
    rw [empty] at written
    exact kept written.symm
  · rintro ⟨name, named, piece, among, stands⟩
    have kept : trimWhile isGapByte piece ≠ [] := by
      intro gone
      rw [gone] at stands
      exact named (encode_injective (stands.symm.trans rfl))
    obtain ⟨byte, member, solid⟩ : ∃ byte ∈ piece, isGapByte byte = false := by
      simpa [trimWhile_eq_nil_iff] using kept
    have apart : byte ≠ commaByte := by
      rintro rfl
      exact not_mem_of_mem_splitOn among member
    exact ⟨byte, mem_of_mem_piece among member, apart, solid⟩

/-- For the server, nothing is offered when no readable line offers anything. -/
theorem offeredProtocols_eq_nil_iff {fields : Fields} :
    offeredProtocols fields = [] ↔
      ∀ line ∈ fields.values .socketProtocol, OffersAnything line → ¬ Readable line := by
  rw [List.eq_nil_iff_forall_not_mem]
  constructor
  · intro unoffered line among anything readable
    obtain ⟨name, offers⟩ := (offersAnything_iff readable).1 anything
    exact unoffered name (mem_offeredProtocols_iff.2 ⟨line, among, readable, offers⟩)
  · intro unreadable name offered
    obtain ⟨line, among, readable, offers⟩ := mem_offeredProtocols_iff.1 offered
    exact unreadable line among ((offersAnything_iff readable).2 ⟨name, offers⟩) readable

/-- What a line offers is a legal value of a field. -/
theorem exists_value_of_offers {line : FieldValue} {name : String} (offers : Offers line name) :
    ∃ value, FieldValue.ofText? name = some value := by
  obtain ⟨-, piece, among, stands⟩ := offers
  have legal : (encode name).all isValueByte = true := by
    rw [List.all_eq_true, ← stands]
    intro byte left
    exact List.all_eq_true.1 line.legal byte
      (mem_of_mem_piece among (mem_of_mem_trimWhile left))
  exact ⟨⟨encode name, legal⟩, ofText?_eq_some_iff.2 rfl⟩

end WebHost
