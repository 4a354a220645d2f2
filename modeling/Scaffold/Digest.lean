import Scaffold.Slice
import Scaffold.Text.Encoding
import Scaffold.Text.Split

/-!
# Digests

`sha1` is the Secure Hash Algorithm 1 on bytes, and `stableId` the identifier that is built from
the digest of some texts: it depends on nothing but the texts and their order.

Main statement: `length_hexDigest` (a digest has forty hexadecimal digits).
-/

namespace Scaffold.Digest

open Scaffold.Text

/-- The state of the algorithm between two blocks. -/
structure State where
  /-- First word. -/
  a : UInt32
  /-- Second word. -/
  b : UInt32
  /-- Third word. -/
  c : UInt32
  /-- Fourth word. -/
  d : UInt32
  /-- Fifth word. -/
  e : UInt32
  deriving DecidableEq

/-- The state before the first block. -/
def State.initial : State := ⟨0x67452301, 0xefcdab89, 0x98badcfe, 0x10325476, 0xc3d2e1f0⟩

/-- The bits of a word moved to the left, those that leave it coming back at the right. -/
def rotate (n x : UInt32) : UInt32 := (x <<< n) ||| (x >>> (32 - n))

/-- The mixing function and the constant of a round. -/
def roundMix (t : Nat) (b c d : UInt32) : UInt32 × UInt32 :=
  if t < 20 then ((b &&& c) ||| (~~~b &&& d), 0x5a827999)
  else if t < 40 then (b ^^^ c ^^^ d, 0x6ed9eba1)
  else if t < 60 then ((b &&& c) ||| (b &&& d) ||| (c &&& d), 0x8f1bbcdc)
  else (b ^^^ c ^^^ d, 0xca62c1d6)

/-- One round, with the word of the schedule that belongs to it. -/
def State.round (s : State) (t : Nat) (w : UInt32) : State :=
  let (f, k) := roundMix t s.b s.c s.d
  ⟨rotate 5 s.a + f + s.e + k + w, s.a, rotate 30 s.b, s.c, s.d⟩

/-- The number that bytes stand for, the most significant byte first. -/
def word (bytes : Bytes) : UInt32 := bytes.foldl (fun n b => (n <<< 8) ||| b.toUInt32) 0

/-- The words of a block. -/
def blockWords (block : Bytes) : List UInt32 :=
  (List.range 16).map fun i => word ((block.drop (4 * i)).take 4)

/-- Adds `n` words to a schedule that is kept with the newest word in front. -/
def extend : Nat → List UInt32 → List UInt32
  | 0, ws => ws
  | n + 1, ws =>
    let next := ws.getD 2 0 ^^^ ws.getD 7 0 ^^^ ws.getD 13 0 ^^^ ws.getD 15 0
    extend n (rotate 1 next :: ws)

/-- The schedule of a block: eighty words. -/
def schedule (block : Bytes) : List UInt32 := (extend 64 (blockWords block).reverse).reverse

/-- The state after a block. -/
def State.block (s : State) (block : Bytes) : State :=
  let r := (schedule block).zipIdx.foldl (fun s (w, t) => s.round t w) s
  ⟨s.a + r.a, s.b + r.b, s.c + r.c, s.d + r.d, s.e + r.e⟩

/-- A number as bytes, the most significant byte first. -/
def bigEndian (width n : Nat) : Bytes :=
  (List.range width).map fun i => UInt8.ofNat (n / Nat.pow 256 (width - 1 - i))

/-- A message filled up to a whole number of blocks: a set bit, zeros, and the message's length in
bits. -/
def padded (message : Bytes) : Bytes :=
  let zeros := (119 - message.length % 64) % 64
  message ++ 0x80 :: List.replicate zeros 0 ++ bigEndian 8 (8 * message.length)

/-- The state after the first `n` blocks of a message. -/
def State.blocks (s : State) : Nat → Bytes → State
  | 0, _ => s
  | n + 1, message => (s.block (message.take 64)).blocks n (message.drop 64)

/-- The digest of a message: five words. -/
def sha1 (message : Bytes) : State :=
  let m := padded message
  State.initial.blocks (m.length / 64) m

/-- The hexadecimal digits of a word. -/
def hexWord (w : UInt32) : List Char :=
  (List.range 8).map fun i => Nat.digitChar (w.toNat / Nat.pow 16 (7 - i) % 16)

/-- The hexadecimal digits of a digest. -/
def State.hex (s : State) : List Char :=
  hexWord s.a ++ hexWord s.b ++ hexWord s.c ++ hexWord s.d ++ hexWord s.e

/-- The hexadecimal digits of the digest of a text. -/
def hexDigest (s : String) : List Char := (sha1 (utf8Bytes s)).hex

theorem length_hexDigest (s : String) : (hexDigest s).length = 40 := by
  simp [hexDigest, State.hex, hexWord]

/-- An identifier that depends only on the given texts: `start`, and as much of their digest as
`length` says. -/
def stableId (parts : List String) (start : String) (length : Int) : String :=
  start ++ String.ofList (takeSigned length (hexDigest (joinTexts "\x1f" parts)))

end Scaffold.Digest
