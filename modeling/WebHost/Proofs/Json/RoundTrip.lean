/-
Module: WebHost.Proofs.Json.RoundTrip
Purpose: A JSON value is read back as it was written.
Main exports:
  Exact, record_of_ordered, exact_record, ReadsBack, readsBack_of_exact, ofBytes?_toBytes,
  json_bodies_read_back
-/
import WebHost.Client.Send
import WebHost.Proofs.Json.Tokens
import WebHost.Request
import WebHost.Response

namespace WebHost

open Number Text

namespace Json

/-!
A value without doubles is read back from its compact text, with any text behind it that
no number goes on with.  The induction is on the value; inside a container, it is on the
items or members that are left, each of which is followed by a comma or by the closing
bracket.  Every step of the reader has used up a character, so that the length of the
text is fuel enough.
-/

/-! ### Values without doubles -/

/-- A value is written exactly: it has no doubles, its integers fit a word, and its
objects hold one member for a name, in the order of the names, as every object does that
is made by `record` (`exact_record`). -/
inductive Exact : Json → Prop where
  | null : Exact .null
  | bool (value : Bool) : Exact (.bool value)
  | integer {value : Int} (fits : FitsWord value) : Exact (.integer value)
  | text (value : String) : Exact (.text value)
  | list {items : List Json} (inside : ∀ item ∈ items, Exact item) : Exact (.list items)
  | object {members : List (String × Json)} (ordered : members.Pairwise fun left right =>
      left.1 < right.1) (inside : ∀ member ∈ members, Exact member.2) : Exact (.object members)

/-! ### Members in their order -/

/-- A member whose name comes after all others is put at the end. -/
theorem insertMember_of_lt {name : String} {value : Json} {table : List (String × Json)}
    (last : ∀ member ∈ table, member.1 < name) :
    insertMember name value table = table ++ [(name, value)] := by
  induction table with
  | nil => rfl
  | cons member rest ih =>
      obtain ⟨first, old⟩ := member
      obtain ⟨here, there⟩ := List.forall_mem_cons.1 last
      have apart : name ≠ first := by
        rintro rfl
        exact String.lt_irrefl name here
      rw [insertMember, if_neg apart, if_neg (String.lt_asymm here), ih there, List.cons_append]

/-- Members in their order are the object that they make. -/
theorem record_of_ordered {members : List (String × Json)}
    (ordered : members.Pairwise fun left right => left.1 < right.1) :
    record members = .object members := by
  have grown : ∀ table : List (String × Json),
      (table ++ members).Pairwise (fun left right => left.1 < right.1) →
        members.foldl (fun table member => insertMember member.1 member.2 table) table =
          table ++ members := by
    clear ordered
    induction members with
    | nil => simp
    | cons member rest ih =>
        intro table ordered
        have last : ∀ before ∈ table, before.1 < member.1 := fun before among =>
          (List.pairwise_append.1 ordered).2.2 before among member List.mem_cons_self
        rw [List.foldl_cons, insertMember_of_lt last, ih]
        · simp
        · simpa using ordered
  rw [record, grown [] ordered, List.nil_append]

theorem mem_insertMember {name : String} {value : Json} {table : List (String × Json)}
    {member : String × Json} (among : member ∈ insertMember name value table) :
    member = (name, value) ∨ member ∈ table := by
  induction table with
  | nil => exact Or.inl (List.mem_singleton.1 among)
  | cons first rest ih =>
      obtain ⟨other, old⟩ := first
      rw [insertMember] at among
      split at among
      · rcases List.mem_cons.1 among with here | there
        · exact Or.inl here
        · exact Or.inr (List.mem_cons_of_mem _ there)
      · split at among
        · exact List.mem_cons.1 among
        · rcases List.mem_cons.1 among with here | there
          · exact Or.inr (here ▸ List.mem_cons_self)
          · exact (ih there).imp_right (List.mem_cons_of_mem _)

/-- A member is put where its name belongs. -/
theorem ordered_insertMember {name : String} {value : Json} {table : List (String × Json)}
    (ordered : table.Pairwise fun left right => left.1 < right.1) :
    (insertMember name value table).Pairwise fun left right => left.1 < right.1 := by
  induction table with
  | nil => exact List.pairwise_singleton _ _
  | cons first rest ih =>
      obtain ⟨other, old⟩ := first
      obtain ⟨after, others⟩ := List.pairwise_cons.1 ordered
      rw [insertMember]
      split
      · rename_i same
        subst same
        exact List.pairwise_cons.2 ⟨after, others⟩
      · rename_i apart
        split
        · rename_i before
          refine List.pairwise_cons.2 ⟨?_, ordered⟩
          intro member among
          rcases List.mem_cons.1 among with rfl | among
          · exact before
          · exact String.lt_trans before (after member among)
        · rename_i behind
          refine List.pairwise_cons.2 ⟨?_, ih others⟩
          intro member among
          rcases mem_insertMember among with rfl | among
          · exact Std.lt_of_le_of_ne (String.not_lt.1 behind) (Ne.symm apart)
          · exact after member among

/-- The object that any members make is written exactly if they are. -/
theorem exact_record {members : List (String × Json)}
    (inside : ∀ member ∈ members, Exact member.2) : Exact (record members) := by
  have grown : ∀ table : List (String × Json), Exact (.object table) →
      Exact (.object
        (members.foldl (fun table member => insertMember member.1 member.2 table) table)) := by
    induction members with
    | nil => exact fun table exact => exact
    | cons member rest ih =>
        intro table exact
        obtain ⟨here, there⟩ := List.forall_mem_cons.1 inside
        cases exact with
        | object ordered held =>
            refine ih there _ (.object (ordered_insertMember ordered) ?_)
            intro other among
            rcases mem_insertMember among with rfl | among
            · exact here
            · exact held other among
  exact grown [] (.object List.Pairwise.nil nofun)

/-! ### The first characters of what is written -/

theorem skipGaps_cons {first : Char} (token : isGap first = false) (rest : List Char) :
    skipGaps (first :: rest) = first :: rest := by
  simp [skipGaps, token]

theorem writeText_append (value : String) (rest : List Char) :
    writeText value ++ rest = '"' :: (value.toList.flatMap writeChar ++ '"' :: rest) := by
  simp [writeText]

/-- A value begins with a character that is no blank and closes nothing. -/
def Begins (characters : List Char) : Prop :=
  ∃ first rest, characters = first :: rest ∧ isGap first = false ∧ first ≠ ']'

theorem Begins.append {characters : List Char} (begins : Begins characters) (rest : List Char) :
    Begins (characters ++ rest) := by
  obtain ⟨first, others, rfl, token, opens⟩ := begins
  exact ⟨first, others ++ rest, rfl, token, opens⟩

theorem not_isGap_of_isDigit {digit : Char} (isDigit : digit.isDigit = true) :
    isGap digit = false := by
  have apart : ∀ gap, gap.isDigit = false → digit ≠ gap := by
    rintro gap other rfl
    rw [isDigit] at other
    cases other
  simp [isGap, apart ' ' (by decide), apart '\t' (by decide), apart '\n' (by decide),
    apart '\r' (by decide)]

/-- An integer begins with its sign or with a digit. -/
theorem writeInteger_cases (value : Int) :
    ∃ first rest, writeInteger value = first :: rest ∧ (first = '-' ∨ first.isDigit = true) := by
  unfold writeInteger
  split
  · exact ⟨'-', _, rfl, Or.inl rfl⟩
  · cases digits : Nat.toDigits 10 value.natAbs with
    | nil => exact absurd digits Nat.toDigits_ne_nil
    | cons first rest =>
        have member : first ∈ Nat.toDigits 10 value.natAbs := by simp [digits]
        exact ⟨first, rest, rfl, Or.inr (isDigit_of_mem_toDigits member)⟩

theorem begins_write {value : Json} (exact : Exact value) : Begins (write value) := by
  cases exact with
  | null => exact ⟨'n', _, rfl, by decide, by decide⟩
  | bool value => cases value <;> exact ⟨_, _, rfl, by decide, by decide⟩
  | integer fits =>
      obtain ⟨first, rest, written, sign | digit⟩ := writeInteger_cases _
      · subst sign
        exact ⟨'-', rest, written, by decide, by decide⟩
      · refine ⟨first, rest, written, not_isGap_of_isDigit digit, ?_⟩
        rintro rfl
        exact absurd digit (by decide)
  | text value => exact ⟨'"', _, rfl, by decide, by decide⟩
  | @list items inside => cases items <;> exact ⟨'[', _, rfl, by decide, by decide⟩
  | @object members ordered inside => cases members <;> exact ⟨'\x7b', _, rfl, by decide, by decide⟩

/-- Numbers are tried when nothing else begins. -/
theorem readValue_number {first : Char} (starts : first = '-' ∨ first.isDigit = true)
    (fuel depth : Nat) (rest : List Char) :
    readValue (fuel + 1) depth (first :: rest) = readNumber (first :: rest) := by
  have apart : ∀ other, other ≠ '-' → other.isDigit = false → first ≠ other := by
    rintro other sign digit rfl
    rcases starts with same | same
    · exact sign same
    · rw [digit] at same
      cases same
  have token : isGap first = false := by
    rcases starts with rfl | digit
    · decide
    · exact not_isGap_of_isDigit digit
  rw [readValue, skipGaps_cons token]
  split
  case h_7 => rfl
  all_goals
    rename_i same
    exact absurd (List.cons.inj same).1 (apart _ (by decide) (by decide))

/-! ### Containers -/

theorem readValue_list (fuel depth : Nat) {rest : List Char} (begins : Begins rest) :
    readValue (fuel + 1) (depth + 1) ('[' :: rest) =
      (readItems fuel depth rest).map fun (items, after) => (.list items, after) := by
  obtain ⟨first, others, rfl, token, opens⟩ := begins
  have bracket : skipGaps ('[' :: first :: others) = '[' :: first :: others := rfl
  simp [readValue, bracket, skipGaps_cons token, opens]

theorem readValue_object (fuel depth : Nat) (rest : List Char) :
    readValue (fuel + 1) (depth + 1) ('\x7b' :: '"' :: rest) =
      (readMembers fuel depth ('"' :: rest)).map fun (members, after) =>
        (record members, after) := by
  rw [readValue]
  rfl

section Steps

variable {fuel depth : Nat} {characters after rest : List Char} {value : Json} {name : String}

theorem readItems_last (read : readValue fuel depth characters = some (value, ']' :: rest)) :
    readItems (fuel + 1) depth characters = some ([value], rest) := by
  rw [readItems, read]
  rfl

theorem readItems_more (read : readValue fuel depth characters = some (value, ',' :: after)) :
    readItems (fuel + 1) depth characters =
      (readItems fuel depth after).map fun (items, rest) => (value :: items, rest) := by
  rw [readItems, read]
  rfl

theorem readMembers_last (named : readText characters = some (name, ':' :: after))
    (read : readValue fuel depth after = some (value, '\x7d' :: rest)) :
    readMembers (fuel + 1) depth ('"' :: characters) = some ([(name, value)], rest) := by
  simp [readMembers, skipGaps_cons, isGap, named, read]

theorem readMembers_more {others : List Char}
    (named : readText characters = some (name, ':' :: after))
    (read : readValue fuel depth after = some (value, ',' :: others)) :
    readMembers (fuel + 1) depth ('"' :: characters) =
      (readMembers fuel depth others).map fun (members, rest) =>
        ((name, value) :: members, rest) := by
  simp [readMembers, skipGaps_cons, isGap, named, read]

end Steps

/-- A value is read back with any text behind it that no number goes on with, as long as
its containers are allowed to stand inside each other. -/
def ReadsBack (value : Json) : Prop :=
  ∀ (fuel depth : Nat) (rest : List Char), (write value).length ≤ fuel → value.depth ≤ depth →
    EndsNumber rest → readValue fuel depth (write value ++ rest) = some (value, rest)

theorem endsNumber_writeItems (items : List Json) (rest : List Char) :
    EndsNumber (writeItems items ++ rest) := by
  cases items <;> exact endsNumber_cons (by decide) _

theorem endsNumber_writeMembers (members : List (String × Json)) (rest : List Char) :
    EndsNumber (writeMembers members ++ rest) := by
  cases members <;> exact endsNumber_cons (by decide) _

/-- Items that are read back one by one are read back together. -/
theorem readItems_write {item : Json} {items : List Json}
    (reads : ∀ one ∈ item :: items, ReadsBack one) {fuel depth : Nat}
    (enough : (write item ++ writeItems items).length ≤ fuel)
    (shallow : depthItems (item :: items) ≤ depth) (rest : List Char) :
    readItems fuel depth (write item ++ (writeItems items ++ rest)) =
      some (item :: items, rest) := by
  -- An item takes one step and, with its comma, at least one character: the others have
  -- enough left, so the fuel is general.
  induction items generalizing item fuel with
  | nil =>
      rw [depthItems, Nat.max_le] at shallow
      rw [writeItems, List.length_append, List.length_singleton] at enough
      cases fuel with
      | zero => omega
      | succ fuel =>
          exact readItems_last (reads item List.mem_cons_self fuel depth _ (by omega) shallow.1
            (endsNumber_writeItems [] rest))
  | cons next others ih =>
      rw [depthItems, Nat.max_le] at shallow
      rw [writeItems, List.length_append, List.length_cons] at enough
      cases fuel with
      | zero => omega
      | succ fuel =>
          have here := reads item List.mem_cons_self fuel depth _ (by omega) shallow.1
            (endsNumber_writeItems (next :: others) rest)
          have shorter : (write next ++ writeItems others).length ≤ fuel := by omega
          have there := ih (fun one member => reads one (List.mem_cons_of_mem _ member))
            shorter shallow.2
          rw [writeItems, List.cons_append, List.append_assoc] at here ⊢
          rw [readItems_more here, there]
          rfl

/-- Members whose values are read back one by one are read back together. -/
theorem readMembers_write {name : String} {value : Json} {members : List (String × Json)}
    (reads : ∀ one ∈ (name, value) :: members, ReadsBack one.2) {fuel depth : Nat}
    (enough : (writeText name ++ ':' :: (write value ++ writeMembers members)).length ≤ fuel)
    (shallow : depthMembers ((name, value) :: members) ≤ depth) (rest : List Char) :
    readMembers fuel depth
        (writeText name ++ ':' :: (write value ++ (writeMembers members ++ rest))) =
      some ((name, value) :: members, rest) := by
  rw [writeText_append]
  induction members generalizing name value fuel with
  | nil =>
      rw [depthMembers, Nat.max_le] at shallow
      rw [writeMembers, List.length_append, List.length_cons, List.length_append,
        List.length_singleton] at enough
      cases fuel with
      | zero => omega
      | succ fuel =>
          have own : ReadsBack value := reads (name, value) List.mem_cons_self
          exact readMembers_last (readText_writeText name _)
            (own fuel depth _ (by omega) shallow.1 (endsNumber_writeMembers [] rest))
  | cons next others ih =>
      obtain ⟨second, following⟩ := next
      rw [depthMembers, Nat.max_le] at shallow
      rw [writeMembers, List.length_append, List.length_cons, List.length_append,
        List.length_cons] at enough
      cases fuel with
      | zero => omega
      | succ fuel =>
          have own : ReadsBack value := reads (name, value) List.mem_cons_self
          have here := own fuel depth _ (by omega) shallow.1
            (endsNumber_writeMembers ((second, following) :: others) rest)
          have shorter : (writeText second ++
              ':' :: (write following ++ writeMembers others)).length ≤ fuel := by omega
          have there := ih (fun one member => reads one (List.mem_cons_of_mem _ member))
            shorter shallow.2
          rw [writeMembers, List.cons_append, List.append_assoc, List.cons_append,
            List.append_assoc, writeText_append] at here ⊢
          rw [readMembers_more (readText_writeText name _) here, there]
          rfl

/-- A value is read back if it is by a reader that has a step left, since every value has a
character that pays for the step. -/
theorem readsBack_of_step {value : Json} (begins : Begins (write value))
    (step : ∀ (fuel depth : Nat) (rest : List Char), (write value).length ≤ fuel + 1 →
      value.depth ≤ depth → EndsNumber rest →
        readValue (fuel + 1) depth (write value ++ rest) = some (value, rest)) :
    ReadsBack value := by
  intro fuel depth rest enough shallow ends
  cases fuel with
  | zero =>
      obtain ⟨first, others, written, -⟩ := begins
      rw [written] at enough
      cases enough
  | succ fuel => exact step fuel depth rest enough shallow ends

theorem readsBack_integer {value : Int} (fits : FitsWord value) : ReadsBack (.integer value) := by
  refine readsBack_of_step (begins_write (.integer fits)) ?_
  intro fuel depth rest _ _ ends
  obtain ⟨first, others, written, starts⟩ := writeInteger_cases value
  have read := readNumber_writeInteger ends fits
  rw [written, List.cons_append] at read
  rw [write, written, List.cons_append, readValue_number starts, read]

theorem readsBack_text (value : String) : ReadsBack (.text value) := by
  refine readsBack_of_step (begins_write (.text value)) ?_
  intro fuel depth rest _ _ _
  have read := readText_writeText value rest
  rw [write, writeText_append]
  simp [readValue, skipGaps_cons, isGap, read]

theorem readsBack_list {items : List Json} (exact : Exact (.list items))
    (reads : ∀ item ∈ items, ReadsBack item) : ReadsBack (.list items) := by
  refine readsBack_of_step (begins_write exact) ?_
  intro fuel depth rest enough shallow _
  rw [Json.depth] at shallow
  cases depth with
  | zero => cases shallow
  | succ depth =>
      cases items with
      | nil => rw [readValue]; rfl
      | cons item items =>
          have inside : ∀ one ∈ item :: items, Exact one := by
            cases exact with
            | list inside => exact inside
          rw [write, List.length_cons] at enough
          have read := readItems_write reads (Nat.le_of_succ_le_succ enough)
            (Nat.le_of_succ_le_succ shallow) rest
          have begins := (begins_write (inside item List.mem_cons_self)).append
            (writeItems items ++ rest)
          rw [write, List.cons_append, List.append_assoc, readValue_list fuel depth begins, read]
          rfl

theorem readsBack_object {members : List (String × Json)} (exact : Exact (.object members))
    (reads : ∀ member ∈ members, ReadsBack member.2) : ReadsBack (.object members) := by
  refine readsBack_of_step (begins_write exact) ?_
  intro fuel depth rest enough shallow _
  rw [Json.depth] at shallow
  cases depth with
  | zero => cases shallow
  | succ depth =>
      cases members with
      | nil => rw [readValue]; rfl
      | cons member members =>
          have made : record (member :: members) = .object (member :: members) := by
            cases exact with
            | object ordered inside => exact record_of_ordered ordered
          obtain ⟨name, value⟩ := member
          rw [write, List.length_cons] at enough
          have read := readMembers_write reads (Nat.le_of_succ_le_succ enough)
            (Nat.le_of_succ_le_succ shallow) rest
          rw [writeText_append] at read
          rw [write, List.cons_append, List.append_assoc, List.cons_append, List.append_assoc,
            writeText_append, readValue_object, read, ← made]
          rfl

/-- Every value that is written exactly is read back. -/
theorem readsBack_of_exact {value : Json} (exact : Exact value) : ReadsBack value := by
  induction exact with
  | null =>
      refine readsBack_of_step (begins_write .null) ?_
      intro fuel depth rest _ _ _
      rw [readValue]
      rfl
  | bool value =>
      refine readsBack_of_step (begins_write (.bool value)) ?_
      intro fuel depth rest _ _ _
      cases value <;> (rw [readValue]; rfl)
  | integer fits => exact readsBack_integer fits
  | text value => exact readsBack_text value
  | list inside reads => exact readsBack_list (.list inside) reads
  | object ordered inside reads => exact readsBack_object (.object ordered inside) reads

/-! ### Bodies -/

/-- The text of a value is read as the value if no more than 127 containers stand inside
each other. -/
theorem ofBytes?_toBytes {value : Json} (exact : Exact value) (shallow : value.depth ≤ depthLimit) :
    ofBytes? value.toBytes = some value := by
  have read := readsBack_of_exact exact (2 * (write value).length + 2) depthLimit [] (by omega)
    shallow endsNumber_nil
  rw [List.append_nil] at read
  rw [ofBytes?, toBytes, decode?_encode, Option.bind_some, toText, String.toList_ofList, parse?,
    read]
  rfl

theorem toBytes_ne_nil {value : Json} (exact : Exact value) (shallow : value.depth ≤ depthLimit) :
    value.toBytes ≠ [] := by
  intro unwritten
  have read := ofBytes?_toBytes exact shallow
  rw [unwritten] at read
  cases read

end Json

/-- A value that is written exactly, with at most 127 containers inside each other, is read
back from a body: by an entry point whose request has the body of a posted value for its
content, and by a client from the content that an entry point was able to set. -/
theorem json_bodies_read_back {value : Json} (exact : value.Exact) (shallow : value.depth ≤ 127) :
    (∀ (path : String) (request : Request),
      request.content = (ClientRequest.postJson path value).payload.toBytes →
        request.contentJson? = some value) ∧
    ∀ (table : MimeTable) (response : Response),
      ∃ after, (Edit.json (some value)).result? table response = some after ∧
        ∀ reply : ClientResponse, reply.content = after.content → reply.json? = some value := by
  have read := Json.ofBytes?_toBytes exact shallow
  constructor
  · intro path request content
    have filled : request.content.isEmpty = false := by
      rw [content, List.isEmpty_eq_false_iff]
      exact Json.toBytes_ne_nil exact shallow
    rw [Request.contentJson?, filled, content]
    exact read
  · intro table response
    refine ⟨_, rfl, ?_⟩
    intro reply content
    rw [ClientResponse.json?, content]
    exact read

/-- Members given out of their order, the least and the greatest integer, and a name and a
text with characters that are escaped. -/
theorem json_bodies_read_back_escaped :
    let value := Json.record [("z", .list [.integer (-9223372036854775808), .null,
      .integer 18446744073709551615]), ("a\"\n", .record []), ("é", .text "\\/\x01")]
    value.Exact ∧ value.depth ≤ 127 ∧
      ({ Request.ofUrl "/" .post with content := value.toBytes }).contentJson? = some value ∧
      ∃ after, (Edit.json (some value)).result? .standard .initial = some after ∧
        (ClientResponse.mk after.status after.fields after.content).json? = some value := by
  intro value
  have exact : value.Exact := by
    refine Json.exact_record ?_
    simp only [List.forall_mem_cons]
    refine ⟨.list ?_, Json.exact_record nofun, .text _, nofun⟩
    simp only [List.forall_mem_cons]
    exact ⟨.integer (by decide), .null, .integer (by decide), nofun⟩
  have shallow : value.depth ≤ 127 := by decide
  obtain ⟨received, sent⟩ := json_bodies_read_back exact shallow
  obtain ⟨after, set, read⟩ := sent .standard .initial
  exact ⟨exact, shallow, received "/" _ rfl, after, set, read _ rfl⟩

end WebHost
