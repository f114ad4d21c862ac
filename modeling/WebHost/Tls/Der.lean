/-
Module: WebHost.Tls.Der
Purpose: Items of tagged binary data, each with its size in front.
Main exports:
  DerItem, DerItem.toBytes, derItem?, derItems?, derItem?_shorter
-/
import WebHost.Text.Utf8

namespace WebHost

open Text

/-!
An item is a tag byte, the size of its content and the content.  A size below
128 is one byte; a greater one is written in as few bytes as it needs, after a
byte that tells their number.  The content of some items is itself a list of
items.
-/

/-- An item. -/
structure DerItem where
  tag : UInt8
  content : Bytes
deriving Repr, Inhabited, DecidableEq

/-- The bytes that tell a size. -/
def derSizeBytes (size : Nat) : Bytes :=
  if size < 128 then [UInt8.ofNat size]
  else if size < 256 then [0x81, UInt8.ofNat size]
  else [0x82, UInt8.ofNat (size / 256), UInt8.ofNat (size % 256)]

/-- The bytes of an item. -/
def DerItem.toBytes (item : DerItem) : Bytes :=
  item.tag :: (derSizeBytes item.content.length ++ item.content)

/-- The size that starts with this byte, and what follows it. -/
def derSize? (first : UInt8) (rest : Bytes) : Option (Nat × Bytes) :=
  if first < 0x80 then some (first.toNat, rest)
  else match first, rest with
    | 0x81, low :: after =>
        if 0x80 ≤ low then some (low.toNat, after) else none
    | 0x82, high :: low :: after =>
        if high ≠ 0 then some (high.toNat * 256 + low.toNat, after) else none
    | _, _ => none

/-- The first item and the bytes after it. -/
def derItem? : Bytes → Option (DerItem × Bytes)
  | tag :: first :: rest =>
      match derSize? first rest with
      | some (size, body) =>
          if size ≤ body.length then
            some ({ tag := tag, content := body.take size }, body.drop size)
          else
            none
      | none => none
  | _ => none

theorem derSize?_shorter {first : UInt8} {rest : Bytes} {size : Nat} {body : Bytes}
    (read : derSize? first rest = some (size, body)) : body.length ≤ rest.length := by
  unfold derSize? at read
  split at read
  · simp only [Option.some.injEq, Prod.mk.injEq] at read
    exact Nat.le_of_eq (by rw [read.2])
  · split at read
    · split at read
      · simp only [Option.some.injEq, Prod.mk.injEq] at read
        rw [← read.2]
        exact Nat.le_succ _
      · simp at read
    · split at read
      · simp only [Option.some.injEq, Prod.mk.injEq] at read
        rw [← read.2]
        exact Nat.le_trans (Nat.le_succ _) (Nat.le_succ _)
      · simp at read
    · simp at read

/-- Reading an item uses up bytes. -/
theorem derItem?_shorter {bytes rest : Bytes} {item : DerItem}
    (read : derItem? bytes = some (item, rest)) : rest.length < bytes.length := by
  unfold derItem? at read
  split at read
  · rename_i tag first after
    split at read
    · rename_i size body found
      have bound := derSize?_shorter found
      split at read
      · simp only [Option.some.injEq, Prod.mk.injEq] at read
        rw [← read.2, List.length_drop, List.length_cons, List.length_cons]
        omega
      · simp at read
    · simp at read
  · simp at read

/-- All items of some bytes. -/
def derItems? (bytes : Bytes) : Option (List DerItem) :=
  if bytes = [] then some []
  else
    match _read : derItem? bytes with
    | some (item, rest) => (derItems? rest).map (item :: ·)
    | none => none
termination_by bytes.length
decreasing_by exact derItem?_shorter _read

/-- The items within the one item that some bytes are, if it has this tag. -/
def derParts? (tag : UInt8) (bytes : Bytes) : Option (List DerItem) :=
  match derItem? bytes with
  | some (item, []) => if item.tag = tag then derItems? item.content else none
  | _ => none

end WebHost
