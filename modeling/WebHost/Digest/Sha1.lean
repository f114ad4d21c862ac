/-
Module: WebHost.Digest.Sha1
Purpose: The SHA-1 digest, by which a server proves that it read a handshake.
Main exports:
  sha1, acceptKey
-/
import WebHost.Digest.Base64

namespace WebHost

open Text

/-!
The digest runs over blocks of sixteen words.  A message is closed by one set
bit, zeros, and its length in bits.
-/

/-- The five words of a digest in progress. -/
structure Sha1State where
  a : UInt32
  b : UInt32
  c : UInt32
  d : UInt32
  e : UInt32
deriving Repr, Inhabited, DecidableEq

def Sha1State.start : Sha1State :=
  { a := 0x67452301
    b := 0xEFCDAB89
    c := 0x98BADCFE
    d := 0x10325476
    e := 0xC3D2E1F0 }

/-- The word turned left by some bits, fewer than all. -/
def rotateLeft (word : UInt32) (bits : UInt32) : UInt32 :=
  (word <<< bits) ||| (word >>> (32 - bits))

/-- A number in so many bytes, the highest first. -/
def bigEndian : Nat → Nat → Bytes
  | 0, _ => []
  | count + 1, number => bigEndian count (number / 256) ++ [UInt8.ofNat (number % 256)]

/-- The message with its closing bits. -/
def sha1Padded (message : Bytes) : Bytes :=
  let zeros := (119 - message.length % 64) % 64
  message ++ 0x80 :: (List.replicate zeros 0 ++ bigEndian 8 (message.length * 8))

/-- The words of a byte list. -/
def words : Bytes → List UInt32
  | a :: b :: c :: d :: rest =>
      UInt32.ofNat (((a.toNat * 256 + b.toNat) * 256 + c.toNat) * 256 + d.toNat) :: words rest
  | _ => []

/-- Extend the last sixteen words of a schedule, latest first, by some more. -/
def extendSchedule : Nat → List UInt32 → List UInt32
  | 0, latest => latest
  | count + 1, latest =>
      let next :=
        rotateLeft
          (latest.getD 2 0 ^^^ latest.getD 7 0 ^^^ latest.getD 13 0 ^^^ latest.getD 15 0) 1
      extendSchedule count (next :: latest)

/-- One of the eighty rounds. -/
def sha1Round (state : Sha1State) (indexed : UInt32 × Nat) : Sha1State :=
  let (word, index) := indexed
  let (mix, constant) : UInt32 × UInt32 :=
    if index < 20 then
      ((state.b &&& state.c) ||| ((state.b ^^^ 0xFFFFFFFF) &&& state.d), 0x5A827999)
    else if index < 40 then (state.b ^^^ state.c ^^^ state.d, 0x6ED9EBA1)
    else if index < 60 then
      ((state.b &&& state.c) ||| (state.b &&& state.d) ||| (state.c &&& state.d), 0x8F1BBCDC)
    else (state.b ^^^ state.c ^^^ state.d, 0xCA62C1D6)
  { a := rotateLeft state.a 5 + mix + state.e + constant + word
    b := state.a
    c := rotateLeft state.b 30
    d := state.c
    e := state.d }

/-- Take in one block of sixteen words. -/
def sha1Block (state : Sha1State) (block : List UInt32) : Sha1State :=
  let schedule := (extendSchedule 64 block.reverse).reverse
  let mixed := schedule.zipIdx.foldl sha1Round state
  { a := state.a + mixed.a
    b := state.b + mixed.b
    c := state.c + mixed.c
    d := state.d + mixed.d
    e := state.e + mixed.e }

/-- Take in so many blocks. -/
def sha1Blocks : Nat → Sha1State → List UInt32 → Sha1State
  | 0, state, _ => state
  | count + 1, state, rest => sha1Blocks count (sha1Block state (rest.take 16)) (rest.drop 16)

/-- The digest of a message. -/
def sha1 (message : Bytes) : Bytes :=
  let all := words (sha1Padded message)
  let final := sha1Blocks (all.length / 16) .start all
  [final.a, final.b, final.c, final.d, final.e].flatMap fun word => bigEndian 4 word.toNat

/-- The text that every WebSocket server appends to the key of a handshake. -/
def handshakeSuffix : String := "258EAFA5-E914-47DA-95CA-C5AB0DC85B11"

/-- The proof that a server has read the key of a handshake. -/
def acceptKey (key : Bytes) : String :=
  base64Text (sha1 (key ++ encode handshakeSuffix))

end WebHost
