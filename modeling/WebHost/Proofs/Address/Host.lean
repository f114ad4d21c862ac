/-
Module: WebHost.Proofs.Address.Host
Purpose: A socket address is a host, a colon and a port.
Main exports:
  IpAddress.withRest, readFour?_append, readSix?_append, readScope_append,
  SocketAddress.WritesHost, SocketAddress.parse?_eq_some_iff
-/
import WebHost.Address
import WebHost.Proofs.Text.Length

namespace WebHost

open Number Text

/-!
Every reader of an address stops at a character that can be no part of what it reads, as
it stops at the end of the text, and leaves that character and all behind it.  So what is
read before the colon of the port does not depend on the port, and what is read before a
closing bracket does not depend on what follows the bracket.
-/

namespace IpAddress

/-- What a reader answers when more text stands behind what it leaves. -/
def withRest {α : Type} (more : List Char) (read : α × List Char) : α × List Char :=
  (read.1, read.2 ++ more)

section Digits

variable {isDigit : Char → Bool} {stop : Char}

theorem cutDigits_append (ends : isDigit stop = false) (front tail : List Char) :
    cutDigits isDigit (front ++ stop :: tail) =
      withRest (stop :: tail) (cutDigits isDigit front) := by
  induction front with
  | nil => simp [cutDigits, withRest, ends]
  | cons first rest ih =>
      simp only [cutDigits, withRest, Prod.mk.injEq] at ih ⊢
      by_cases digit : isDigit first = true
      · simp [digit, ih.1, ih.2]
      · simp [digit]

theorem cutDigits_suffix (characters : List Char) :
    (cutDigits isDigit characters).2 <:+ characters :=
  List.dropWhile_suffix isDigit

end Digits

/-! ### Octets -/

/-- The character is no part of an address of four octets. -/
structure EndsOctets (stop : Char) : Prop where
  digit : stop.isDigit = false
  dot : stop ≠ '.'

section Octets

variable {stop : Char} (ends : EndsOctets stop) (tail : List Char)

include ends in
theorem readOctet?_append (front : List Char) :
    readOctet? (front ++ stop :: tail) = (readOctet? front).map (withRest (stop :: tail)) := by
  unfold readOctet?
  rw [cutDigits_append ends.digit]
  obtain ⟨digits, rest⟩ := cutDigits Char.isDigit front
  dsimp only [withRest]
  cases readDigits? digits with
  | none => rfl
  | some number =>
      dsimp only
      split <;> rfl

include ends in
theorem readOctets?_append (count : Nat) (front : List Char) :
    readOctets? count (front ++ stop :: tail) =
      (readOctets? count front).map (withRest (stop :: tail)) := by
  induction count generalizing front with
  | zero => rfl
  | succ count ih =>
      cases front with
      | nil => simp [readOctets?, ends.dot]
      | cons first rest =>
          by_cases dot : first = '.'
          · subst dot
            simp only [List.cons_append, readOctets?, readOctet?_append ends tail]
            cases readOctet? rest with
            | none => rfl
            | some read =>
                simp only [Option.map_some, withRest, ih, Option.map_map]
                rfl
          · simp [readOctets?, dot]

include ends in
theorem readFour?_append (front : List Char) :
    readFour? (front ++ stop :: tail) = (readFour? front).map (withRest (stop :: tail)) := by
  unfold readFour?
  rw [readOctet?_append ends tail]
  cases readOctet? front with
  | none => rfl
  | some read =>
      simp only [Option.map_some, withRest, readOctets?_append ends tail, Option.map_map]
      rfl

theorem readOctet?_suffix {characters rest : List Char} {octet : Nat}
    (read : readOctet? characters = some (octet, rest)) : rest <:+ characters := by
  have left : rest = (cutDigits Char.isDigit characters).2 := by
    unfold readOctet? at read
    dsimp only at read
    split at read
    · obtain ⟨-, same⟩ := Option.ite_none_right_eq_some.1 read
      cases same
      rfl
    · cases read
  rw [left]
  exact cutDigits_suffix characters

/-- As many octets are read as were asked for. -/
theorem readOctets?_spec {count : Nat} {characters rest : List Char} {octets : List Nat}
    (read : readOctets? count characters = some (octets, rest)) :
    octets.length = count ∧ rest <:+ characters := by
  induction count generalizing characters octets with
  | zero =>
      cases read
      exact ⟨rfl, List.suffix_refl _⟩
  | succ count ih =>
      cases characters with
      | nil => cases read
      | cons first after =>
          by_cases dot : first = '.'
          · subst dot
            rw [readOctets?] at read
            split at read
            · rename_i octet more one
              obtain ⟨⟨others, last⟩, many, same⟩ := Option.map_eq_some_iff.1 read
              cases same
              obtain ⟨length, suffix⟩ := ih many
              refine ⟨congrArg Nat.succ length, ?_⟩
              exact (suffix.trans (readOctet?_suffix one)).trans (List.suffix_cons _ _)
            · cases read
          · simp [readOctets?, dot] at read

theorem readFour?_spec {characters rest : List Char} {octets : List Nat}
    (read : readFour? characters = some (octets, rest)) :
    octets.length = 4 ∧ rest <:+ characters := by
  unfold readFour? at read
  split at read
  · rename_i octet more one
    obtain ⟨⟨others, last⟩, many, same⟩ := Option.map_eq_some_iff.1 read
    cases same
    obtain ⟨length, suffix⟩ := readOctets?_spec many
    exact ⟨congrArg Nat.succ length, suffix.trans (readOctet?_suffix one)⟩
  · cases read

/-- An address of four octets starts with a digit. -/
theorem exists_cons_of_readFour? {characters : List Char} {read : List Nat × List Char}
    (found : readFour? characters = some read) :
    ∃ first rest, characters = first :: rest ∧ first.isDigit = true := by
  cases characters with
  | nil => cases found
  | cons first rest =>
      refine ⟨first, rest, rfl, ?_⟩
      apply Decidable.byContradiction
      intro other
      have empty : (cutDigits Char.isDigit (first :: rest)).1 = [] := by simp [cutDigits, other]
      have unread : readOctet? (first :: rest) = none := by simp [readOctet?, empty, readDigits?]
      rw [readFour?, unread] at found
      cases found

end Octets

theorem endsOctets_colon : EndsOctets ':' := ⟨by decide, by decide⟩

theorem endsOctets_bracket : EndsOctets ']' := ⟨by decide, by decide⟩

/-! ### Groups -/

/-- What stands after the two colons at the start. -/
def afterColons? : List Char → Option (List Char)
  | ':' :: ':' :: after => some after
  | _ => none

theorem afterColons?_of_others {characters : List Char}
    (others : ∀ after, characters = ':' :: ':' :: after → False) :
    afterColons? characters = none := by
  unfold afterColons?
  split
  · exact (others _ rfl).elim
  · rfl

/-- The groups before two colons with zeros for the colons and the groups after them. -/
def closeGap (head : List Nat) (after : List Char) : List Nat × List Char :=
  let read := readGroups (7 - head.length) true after
  (head ++ List.replicate (8 - head.length - read.1.length) 0 ++ read.1, read.2.2)

theorem readSix?_eq (characters : List Char) :
    readSix? characters =
      let read := readGroups 8 true characters
      if read.1.length = 8 then some (read.1, read.2.2)
      else if read.2.1 then none
      else (afterColons? read.2.2).map (closeGap read.1) := by
  unfold readSix?
  obtain ⟨head, octets, rest⟩ := readGroups 8 true characters
  dsimp only
  split
  · rfl
  · split
    · rfl
    · split
      · rfl
      · rename_i others
        rw [afterColons?_of_others others]
        rfl

section Groups

variable (tail : List Char)

theorem readGroup?_append (front : List Char) :
    readGroup? (front ++ ']' :: tail) = (readGroup? front).map (withRest (']' :: tail)) := by
  unfold readGroup?
  rw [cutDigits_append (by decide)]
  dsimp only [withRest]
  split <;> rfl

theorem skipSeparator?_append (first : Bool) (front : List Char) :
    skipSeparator? first (front ++ ']' :: tail) =
      (skipSeparator? first front).map (· ++ ']' :: tail) := by
  unfold skipSeparator?
  cases first with
  | true => rfl
  | false =>
      cases front with
      | nil => rfl
      | cons character rest =>
          by_cases colon : character = ':'
          · subst colon
            rfl
          · simp [colon]

theorem embedded_append (room : Nat) (front : List Char) :
    (if room = 0 then none else readFour? (front ++ ']' :: tail)) =
      (if room = 0 then none else readFour? front).map (withRest (']' :: tail)) := by
  split
  · rfl
  · exact readFour?_append endsOctets_bracket tail front

theorem embedded_spec {room : Nat} {characters rest : List Char} {octets : List Nat}
    (read : (if room = 0 then none else readFour? characters) = some (octets, rest)) :
    octets.length = 4 ∧ rest <:+ characters :=
  readFour?_spec (Option.ite_none_left_eq_some.1 read).2

theorem readGroups_append (room : Nat) (first : Bool) (front : List Char) :
    readGroups room first (front ++ ']' :: tail) =
      ((readGroups room first front).1, withRest (']' :: tail) (readGroups room first front).2) := by
  induction room generalizing first front with
  | zero => rfl
  | succ room ih =>
      rw [readGroups, readGroups, skipSeparator?_append]
      cases skipSeparator? first front with
      | none => rfl
      | some start =>
          have spec := @embedded_spec room start
          simp only [Option.map_some, embedded_append]
          generalize (if room = 0 then none else readFour? start) = embedded at spec
          cases embedded with
          | some read =>
              obtain ⟨octets, rest⟩ := read
              match octets, (spec rfl).1 with
              | [_, _, _, _], _ => rfl
          | none =>
              simp only [Option.map_none, readGroup?_append]
              cases readGroup? start with
              | none => rfl
              | some read =>
                  simp only [Option.map_some, withRest, ih]

theorem afterColons?_append (front : List Char) :
    afterColons? (front ++ ']' :: tail) = (afterColons? front).map (· ++ ']' :: tail) := by
  rcases front with _ | ⟨first, _ | ⟨second, after⟩⟩
  · rfl
  · by_cases colon : first = ':'
    · subst colon
      rfl
    · simp [afterColons?, colon]
  · by_cases colon : first = ':'
    · by_cases again : second = ':'
      · subst colon again
        rfl
      · simp [afterColons?, again]
    · simp [afterColons?, colon]

theorem closeGap_append (head : List Nat) (front : List Char) :
    closeGap head (front ++ ']' :: tail) = withRest (']' :: tail) (closeGap head front) := by
  unfold closeGap
  rw [readGroups_append]
  rfl

theorem readSix?_append (front : List Char) :
    readSix? (front ++ ']' :: tail) = (readSix? front).map (withRest (']' :: tail)) := by
  rw [readSix?_eq, readSix?_eq, readGroups_append]
  dsimp only [withRest]
  split
  · rfl
  · split
    · rfl
    · rw [afterColons?_append, Option.map_map, Option.map_map]
      exact congrArg (Option.map · _) (funext (closeGap_append tail _))

end Groups

theorem readGroup?_suffix {characters rest : List Char} {group : Nat}
    (read : readGroup? characters = some (group, rest)) : rest <:+ characters := by
  obtain ⟨-, same⟩ := Option.ite_none_right_eq_some.1 read
  cases same
  exact cutDigits_suffix characters

theorem skipSeparator?_suffix {first : Bool} {characters rest : List Char}
    (skipped : skipSeparator? first characters = some rest) : rest <:+ characters := by
  unfold skipSeparator? at skipped
  split at skipped
  · cases skipped
    exact List.suffix_refl _
  · split at skipped
    · cases skipped
      exact List.suffix_cons _ _
    · cases skipped

theorem readGroups_suffix (room : Nat) (first : Bool) (characters : List Char) :
    (readGroups room first characters).2.2 <:+ characters := by
  induction room generalizing first characters with
  | zero => exact List.suffix_refl _
  | succ room ih =>
      rw [readGroups]
      split
      · exact List.suffix_refl _
      · rename_i start skipped
        have after : start <:+ characters := skipSeparator?_suffix skipped
        have spec := @embedded_spec room start
        dsimp only
        generalize (if room = 0 then none else readFour? start) = embedded at spec
        split
        · exact (spec rfl).2.trans after
        · split
          · exact List.suffix_refl _
          · rename_i group rest one
            exact ((ih false rest).trans (readGroup?_suffix one)).trans after

theorem closeGap_suffix (head : List Nat) (after : List Char) :
    (closeGap head after).2 <:+ after :=
  readGroups_suffix _ true after

theorem afterColons?_suffix {characters after : List Char}
    (skipped : afterColons? characters = some after) : after <:+ characters := by
  unfold afterColons? at skipped
  split at skipped
  · cases skipped
    exact ⟨[':', ':'], rfl⟩
  · cases skipped

theorem readSix?_suffix {characters rest : List Char} {groups : List Nat}
    (read : readSix? characters = some (groups, rest)) : rest <:+ characters := by
  have head := readGroups_suffix 8 true characters
  rw [readSix?_eq] at read
  dsimp only at read
  split at read
  · cases read
    exact head
  · split at read
    · cases read
    · obtain ⟨after, skipped, closed⟩ := Option.map_eq_some_iff.1 read
      have left : (closeGap (readGroups 8 true characters).1 after).2 = rest :=
        congrArg Prod.snd closed
      have last : rest <:+ after := left ▸ closeGap_suffix _ after
      exact (last.trans (afterColons?_suffix skipped)).trans head

end IpAddress

namespace SocketAddress

open IpAddress

theorem readScope_append (tail front : List Char) :
    readScope (front ++ ']' :: tail) = withRest (']' :: tail) (readScope front) := by
  match front with
  | [] => rfl
  | first :: rest =>
      by_cases percent : first = '%'
      · subst percent
        simp only [List.cons_append, readScope]
        rw [cutDigits_append (by decide)]
        dsimp only [withRest]
        split <;> rfl
      · simp [readScope, percent, withRest]

theorem readScope_suffix (characters : List Char) : (readScope characters).2 <:+ characters := by
  unfold readScope
  split
  · rename_i rest
    dsimp only
    split
    · exact (cutDigits_suffix rest).trans (List.suffix_cons _ _)
    · exact List.suffix_refl _
  · exact List.suffix_refl _

/-- The text is all of what stands before the colon of the port: four octets,
or eight groups and maybe a scope, between brackets. -/
inductive WritesHost : List Char → IpAddress → Nat → Prop where
  | four {host : List Char} {octets : List Nat} (read : readFour? host = some (octets, [])) :
      WritesHost host (.four octets) 0
  | six {inner after : List Char} {groups : List Nat} {scope : Nat}
      (read : readSix? inner = some (groups, after)) (rest : readScope after = (scope, [])) :
      WritesHost ('[' :: (inner ++ [']'])) (.six groups) scope

theorem readPort?_eq_some_iff {characters : List Char} {port : Nat} :
    readPort? characters = some port ↔
      ∃ digits, characters = ':' :: digits ∧ WritesNumber digits port ∧ port < 65536 := by
  constructor
  · intro read
    unfold readPort? at read
    split at read
    · rename_i digits
      obtain ⟨number, below⟩ := Option.filter_eq_some_iff.1 read
      exact ⟨digits, rfl, readDigits?_eq_some_iff.1 number, of_decide_eq_true below⟩
    · cases read
  · rintro ⟨digits, rfl, number, below⟩
    apply Option.filter_eq_some_iff.2
    exact ⟨readDigits?_eq_some_iff.2 number, decide_eq_true below⟩

/-- Octets that are read up to a colon are all that stands before it. -/
theorem exists_host_of_readFour? {characters digits : List Char} {octets : List Nat}
    (four : readFour? characters = some (octets, ':' :: digits)) :
    ∃ host, characters = host ++ ':' :: digits ∧ WritesHost host (.four octets) 0 := by
  obtain ⟨host, whole⟩ := (readFour?_spec four).2
  rw [← whole, readFour?_append endsOctets_colon] at four
  obtain ⟨⟨numbers, after⟩, read, same⟩ := Option.map_eq_some_iff.1 four
  simp only [withRest, Prod.mk.injEq, List.append_left_eq_self] at same
  obtain ⟨rfl, rfl⟩ := same
  exact ⟨host, whole.symm, WritesHost.four read⟩

/-- Groups and a scope that are read up to a bracket are all that stands before it. -/
theorem exists_host_of_readSix? {characters afterGroups after : List Char} {groups : List Nat}
    (six : readSix? characters = some (groups, afterGroups))
    (closed : (readScope afterGroups).2 = ']' :: after) :
    ∃ inner, characters = inner ++ ']' :: after ∧
      WritesHost ('[' :: (inner ++ [']'])) (.six groups) (readScope afterGroups).1 := by
  have left : ']' :: after <:+ characters := by
    rw [← closed]
    exact (readScope_suffix afterGroups).trans (readSix?_suffix six)
  obtain ⟨inner, rfl⟩ := left
  rw [readSix?_append] at six
  obtain ⟨⟨numbers, rest⟩, read, same⟩ := Option.map_eq_some_iff.1 six
  cases same
  rw [readScope_append] at closed ⊢
  refine ⟨inner, rfl, WritesHost.six read ?_⟩
  exact Prod.ext rfl (List.append_left_eq_self.1 closed)

theorem exists_host_of_parse? {text : String} {address : SocketAddress}
    (parsed : parse? text = some address) :
    ∃ host digits, text.toList = host ++ ':' :: digits ∧
      WritesHost host address.ip address.scope ∧
      WritesNumber digits address.port ∧ address.port < 65536 := by
  unfold parse? at parsed
  split at parsed
  · rename_i rest bracketed
    split at parsed
    · rename_i groups afterGroups six
      dsimp only at parsed
      split at parsed
      · rename_i afterBracket closed
        obtain ⟨port, read, rfl⟩ := Option.map_eq_some_iff.1 parsed
        obtain ⟨digits, rfl, number, below⟩ := readPort?_eq_some_iff.1 read
        obtain ⟨inner, rfl, written⟩ := exists_host_of_readSix? six closed
        exact ⟨'[' :: (inner ++ [']']), digits, by simp [bracketed], written, number, below⟩
      · cases parsed
    · cases parsed
  · split at parsed
    · rename_i octets rest four
      obtain ⟨port, read, rfl⟩ := Option.map_eq_some_iff.1 parsed
      obtain ⟨digits, rfl, number, below⟩ := readPort?_eq_some_iff.1 read
      obtain ⟨host, whole, written⟩ := exists_host_of_readFour? four
      exact ⟨host, digits, whole, written, number, below⟩
    · cases parsed

theorem parse?_of_host {text : String} {address : SocketAddress} {host digits : List Char}
    (whole : text.toList = host ++ ':' :: digits)
    (written : WritesHost host address.ip address.scope)
    (number : WritesNumber digits address.port) (below : address.port < 65536) :
    parse? text = some address := by
  obtain ⟨ip, scope, port⟩ := address
  have read : readPort? (':' :: digits) = some port :=
    readPort?_eq_some_iff.2 ⟨digits, rfl, number, below⟩
  dsimp only at written
  cases written with
  | four found =>
      obtain ⟨first, rest, rfl, digit⟩ := exists_cons_of_readFour? found
      have notBracket : first ≠ '[' := by
        rintro rfl
        exact absurd digit (by decide)
      rw [parse?, whole]
      split
      · rename_i same
        exact absurd (List.cons.inj same).1 notBracket
      · rw [readFour?_append endsOctets_colon, found]
        simp [withRest, read]
  | six found last =>
      rename_i inner after groups
      have opened : text.toList = '[' :: (inner ++ ']' :: ':' :: digits) := by simp [whole]
      rw [parse?, opened]
      simp only [readSix?_append, found, Option.map_some, withRest, readScope_append, last,
        List.nil_append, read]

/-- A text writes an address as a host, a colon and the digits of the port. -/
theorem parse?_eq_some_iff {text : String} {address : SocketAddress} :
    parse? text = some address ↔
      ∃ host digits, text.toList = host ++ ':' :: digits ∧
        WritesHost host address.ip address.scope ∧
        WritesNumber digits address.port ∧ address.port < 65536 := by
  constructor
  · exact exists_host_of_parse?
  · rintro ⟨host, digits, whole, written, number, below⟩
    exact parse?_of_host whole written number below

end SocketAddress

end WebHost
