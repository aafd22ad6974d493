import DeviceAuth.Bytes

/-!
# BLAKE2b

The hash under the password stretching. Its working state is sixteen 64-bit words, mixed four at a
time: first down the columns of a four by four square, then along the diagonals. `Lanes` is that
square, and the same square without message words is the permutation of the memory-hard function.
-/

set_option autoImplicit false

namespace DeviceAuth

/-- Sixteen 64-bit words. -/
structure Lanes where
  x0 : UInt64
  x1 : UInt64
  x2 : UInt64
  x3 : UInt64
  x4 : UInt64
  x5 : UInt64
  x6 : UInt64
  x7 : UInt64
  x8 : UInt64
  x9 : UInt64
  x10 : UInt64
  x11 : UInt64
  x12 : UInt64
  x13 : UInt64
  x14 : UInt64
  x15 : UInt64
deriving DecidableEq

namespace Lanes

/-- Sixteen equal words. -/
def fill (w : UInt64) : Lanes := ⟨w, w, w, w, w, w, w, w, w, w, w, w, w, w, w, w⟩

/-- Word by word exclusive or. -/
def xor (p q : Lanes) : Lanes :=
  ⟨p.x0 ^^^ q.x0, p.x1 ^^^ q.x1, p.x2 ^^^ q.x2, p.x3 ^^^ q.x3,
    p.x4 ^^^ q.x4, p.x5 ^^^ q.x5, p.x6 ^^^ q.x6, p.x7 ^^^ q.x7,
    p.x8 ^^^ q.x8, p.x9 ^^^ q.x9, p.x10 ^^^ q.x10, p.x11 ^^^ q.x11,
    p.x12 ^^^ q.x12, p.x13 ^^^ q.x13, p.x14 ^^^ q.x14, p.x15 ^^^ q.x15⟩

/-- The words in order. -/
def words (p : Lanes) : List UInt64 :=
  [p.x0, p.x1, p.x2, p.x3, p.x4, p.x5, p.x6, p.x7,
    p.x8, p.x9, p.x10, p.x11, p.x12, p.x13, p.x14, p.x15]

/-- The lanes of a list of words; zeros stand in for missing ones. -/
def ofWords (ws : List UInt64) : Lanes :=
  let w := fun i => ws.getD i 0
  ⟨w 0, w 1, w 2, w 3, w 4, w 5, w 6, w 7, w 8, w 9, w 10, w 11, w 12, w 13, w 14, w 15⟩

end Lanes

/-- A 64-bit word turned to the right. -/
@[inline] def rotr64 (x : UInt64) (n : UInt64) : UInt64 := (x >>> n) ||| (x <<< (64 - n))

/-- The words of an octet string, eight octets to a word, least significant first. -/
def words64 (bytes : Bytes) : List UInt64 :=
  (List.range (bytes.length / 8)).map fun i =>
    UInt64.ofNat (Bytes.ofLittleEndian ((bytes.drop (8 * i)).take 8))

/-- The octets of a word string, least significant first in each word. -/
def bytesOfWords (ws : List UInt64) : Bytes := ws.flatMap fun w => Bytes.littleEndian 8 w.toNat

namespace Blake2b

/-- Four words of the square. -/
structure Quad where
  a : UInt64
  b : UInt64
  c : UInt64
  d : UInt64

/-- Four words mixed with two message words. -/
@[inline] def mix (a b c d m n : UInt64) : Quad :=
  let a := a + b + m
  let d := rotr64 (d ^^^ a) 32
  let c := c + d
  let b := rotr64 (b ^^^ c) 24
  let a := a + b + n
  let d := rotr64 (d ^^^ a) 16
  let c := c + d
  let b := rotr64 (b ^^^ c) 63
  ⟨a, b, c, d⟩

/-- The constants of the initial state. -/
def constants : List UInt64 :=
  [0x6a09e667f3bcc908, 0xbb67ae8584caa73b, 0x3c6ef372fe94f82b, 0xa54ff53a5f1d36f1,
   0x510e527fade682d1, 0x9b05688c2b3e6c1f, 0x1f83d9abfb41bd6b, 0x5be0cd19137e2179]

/-- The order in which each round takes the message words. -/
def orders : List (List Nat) :=
  [[0, 1, 2, 3, 4, 5, 6, 7, 8, 9, 10, 11, 12, 13, 14, 15],
   [14, 10, 4, 8, 9, 15, 13, 6, 1, 12, 0, 2, 11, 7, 5, 3],
   [11, 8, 12, 0, 5, 2, 15, 13, 10, 14, 3, 6, 7, 1, 9, 4],
   [7, 9, 3, 1, 13, 12, 11, 14, 2, 6, 5, 10, 4, 0, 15, 8],
   [9, 0, 5, 7, 2, 4, 10, 15, 14, 1, 11, 12, 6, 8, 3, 13],
   [2, 12, 6, 10, 0, 11, 8, 3, 4, 13, 7, 5, 15, 14, 1, 9],
   [12, 5, 1, 15, 14, 13, 4, 10, 0, 7, 6, 3, 9, 2, 8, 11],
   [13, 11, 7, 14, 12, 1, 3, 9, 5, 0, 15, 4, 8, 6, 2, 10],
   [6, 15, 14, 9, 11, 3, 0, 8, 12, 2, 13, 7, 1, 4, 10, 5],
   [10, 2, 8, 4, 7, 6, 1, 5, 15, 11, 9, 14, 3, 12, 13, 0],
   [0, 1, 2, 3, 4, 5, 6, 7, 8, 9, 10, 11, 12, 13, 14, 15],
   [14, 10, 4, 8, 9, 15, 13, 6, 1, 12, 0, 2, 11, 7, 5, 3]]

/-- One round over the square, with the message words in the round's order. -/
def round (v m : Lanes) : Lanes :=
  let q := mix v.x0 v.x4 v.x8 v.x12 m.x0 m.x1
  let r := mix v.x1 v.x5 v.x9 v.x13 m.x2 m.x3
  let s := mix v.x2 v.x6 v.x10 v.x14 m.x4 m.x5
  let t := mix v.x3 v.x7 v.x11 v.x15 m.x6 m.x7
  let e := mix q.a r.b s.c t.d m.x8 m.x9
  let f := mix r.a s.b t.c q.d m.x10 m.x11
  let g := mix s.a t.b q.c r.d m.x12 m.x13
  let h := mix t.a q.b r.c s.d m.x14 m.x15
  ⟨e.a, f.a, g.a, h.a, h.b, e.b, f.b, g.b, g.c, h.c, e.c, f.c, f.d, g.d, h.d, e.d⟩

/-- A block mixed into the eight chaining words, with the number of octets up to its end. -/
def compress (h : List UInt64) (block : List UInt64) (count : Nat) (last : Bool) : List UInt64 :=
  let flag := if last then 0xffffffffffffffff else 0
  let mask := [0, 0, 0, 0, UInt64.ofNat count, UInt64.ofNat (count / UInt64.size), flag, 0]
  let start := Lanes.ofWords (h ++ List.zipWith (· ^^^ ·) constants mask)
  let v := (orders.foldl
    (fun v order => round v (Lanes.ofWords (order.map fun i => block.getD i 0))) start).words
  List.zipWith (· ^^^ ·) h (List.zipWith (· ^^^ ·) v (v.drop 8))

/-- The message from octet `done` on, `blocks` blocks of it before the last, mixed in. -/
def absorb : Nat → List UInt64 → Nat → Bytes → List UInt64
  | 0, h, done, rest =>
    compress h (words64 (rest ++ List.replicate (128 - rest.length) 0)) (done + rest.length) true
  | blocks + 1, h, done, rest =>
    absorb blocks (compress h (words64 (rest.take 128)) (done + 128) false) (done + 128)
      (rest.drop 128)

end Blake2b

/-- The unkeyed BLAKE2b digest of a message, `size` octets of it (1 to 64). -/
def blake2b (size : Nat) (message : Bytes) : Bytes :=
  let start := List.zipWith (· ^^^ ·) Blake2b.constants
    [0x01010000 ^^^ UInt64.ofNat size, 0, 0, 0, 0, 0, 0, 0]
  (bytesOfWords (Blake2b.absorb ((message.length - 1) / 128) start 0 message)).take size

end DeviceAuth
