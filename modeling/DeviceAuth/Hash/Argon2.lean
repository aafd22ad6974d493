import DeviceAuth.Hash.Blake2b

/-!
# Argon2id

The memory-hard stretching of a password, with one lane. Memory is an array of blocks of 128 words.
Each new block is compressed from the one before it and one further back; which one is decided, in
the first half of the first pass, by a schedule that only depends on the position, and after that by
the block before. The password itself enters through the first two blocks.

A block is kept as eight rows of sixteen words. Compressing permutes the rows, exchanges rows and
columns, and does both again, so the one permutation serves both directions.
-/

set_option autoImplicit false

namespace DeviceAuth.Argon2

open Blake2b (Quad)

/-- The sum of two words and twice the product of their lower halves. -/
@[inline] def blend (x y : UInt64) : UInt64 :=
  x + y + 2 * ((x &&& 0xffffffff) * (y &&& 0xffffffff))

/-- Four words mixed by multiplication. -/
@[inline] def mix (a b c d : UInt64) : Quad :=
  let a := blend a b
  let d := rotr64 (d ^^^ a) 32
  let c := blend c d
  let b := rotr64 (b ^^^ c) 24
  let a := blend a b
  let d := rotr64 (d ^^^ a) 16
  let c := blend c d
  let b := rotr64 (b ^^^ c) 63
  ⟨a, b, c, d⟩

/-- The permutation of a row: columns of the square, then diagonals. -/
def permute (v : Lanes) : Lanes :=
  let q := mix v.x0 v.x4 v.x8 v.x12
  let r := mix v.x1 v.x5 v.x9 v.x13
  let s := mix v.x2 v.x6 v.x10 v.x14
  let t := mix v.x3 v.x7 v.x11 v.x15
  let e := mix q.a r.b s.c t.d
  let f := mix r.a s.b t.c q.d
  let g := mix s.a t.b q.c r.d
  let h := mix t.a q.b r.c s.d
  ⟨e.a, f.a, g.a, h.a, h.b, e.b, f.b, g.b, g.c, h.c, e.c, f.c, f.d, g.d, h.d, e.d⟩

/-- A block of memory: eight rows of sixteen words. -/
structure Block where
  r0 : Lanes
  r1 : Lanes
  r2 : Lanes
  r3 : Lanes
  r4 : Lanes
  r5 : Lanes
  r6 : Lanes
  r7 : Lanes
deriving DecidableEq

namespace Block

/-- The block of zeros. -/
def zero : Block :=
  let r := Lanes.fill 0
  ⟨r, r, r, r, r, r, r, r⟩

/-- Word by word exclusive or. -/
def xor (p q : Block) : Block :=
  ⟨p.r0.xor q.r0, p.r1.xor q.r1, p.r2.xor q.r2, p.r3.xor q.r3,
    p.r4.xor q.r4, p.r5.xor q.r5, p.r6.xor q.r6, p.r7.xor q.r7⟩

/-- Every row permuted. -/
def permuted (p : Block) : Block :=
  ⟨permute p.r0, permute p.r1, permute p.r2, permute p.r3,
    permute p.r4, permute p.r5, permute p.r6, permute p.r7⟩

/-- Rows and columns exchanged, where a column is two words wide. -/
def exchanged (p : Block) : Block where
  r0 := ⟨p.r0.x0, p.r0.x1, p.r1.x0, p.r1.x1, p.r2.x0, p.r2.x1, p.r3.x0, p.r3.x1,
    p.r4.x0, p.r4.x1, p.r5.x0, p.r5.x1, p.r6.x0, p.r6.x1, p.r7.x0, p.r7.x1⟩
  r1 := ⟨p.r0.x2, p.r0.x3, p.r1.x2, p.r1.x3, p.r2.x2, p.r2.x3, p.r3.x2, p.r3.x3,
    p.r4.x2, p.r4.x3, p.r5.x2, p.r5.x3, p.r6.x2, p.r6.x3, p.r7.x2, p.r7.x3⟩
  r2 := ⟨p.r0.x4, p.r0.x5, p.r1.x4, p.r1.x5, p.r2.x4, p.r2.x5, p.r3.x4, p.r3.x5,
    p.r4.x4, p.r4.x5, p.r5.x4, p.r5.x5, p.r6.x4, p.r6.x5, p.r7.x4, p.r7.x5⟩
  r3 := ⟨p.r0.x6, p.r0.x7, p.r1.x6, p.r1.x7, p.r2.x6, p.r2.x7, p.r3.x6, p.r3.x7,
    p.r4.x6, p.r4.x7, p.r5.x6, p.r5.x7, p.r6.x6, p.r6.x7, p.r7.x6, p.r7.x7⟩
  r4 := ⟨p.r0.x8, p.r0.x9, p.r1.x8, p.r1.x9, p.r2.x8, p.r2.x9, p.r3.x8, p.r3.x9,
    p.r4.x8, p.r4.x9, p.r5.x8, p.r5.x9, p.r6.x8, p.r6.x9, p.r7.x8, p.r7.x9⟩
  r5 := ⟨p.r0.x10, p.r0.x11, p.r1.x10, p.r1.x11, p.r2.x10, p.r2.x11, p.r3.x10, p.r3.x11,
    p.r4.x10, p.r4.x11, p.r5.x10, p.r5.x11, p.r6.x10, p.r6.x11, p.r7.x10, p.r7.x11⟩
  r6 := ⟨p.r0.x12, p.r0.x13, p.r1.x12, p.r1.x13, p.r2.x12, p.r2.x13, p.r3.x12, p.r3.x13,
    p.r4.x12, p.r4.x13, p.r5.x12, p.r5.x13, p.r6.x12, p.r6.x13, p.r7.x12, p.r7.x13⟩
  r7 := ⟨p.r0.x14, p.r0.x15, p.r1.x14, p.r1.x15, p.r2.x14, p.r2.x15, p.r3.x14, p.r3.x15,
    p.r4.x14, p.r4.x15, p.r5.x14, p.r5.x15, p.r6.x14, p.r6.x15, p.r7.x14, p.r7.x15⟩

/-- The words in order. -/
def words (p : Block) : List UInt64 :=
  [p.r0, p.r1, p.r2, p.r3, p.r4, p.r5, p.r6, p.r7].flatMap Lanes.words

/-- The block of a list of words; zeros stand in for missing ones. -/
def ofWords (ws : List UInt64) : Block :=
  let row := fun i => Lanes.ofWords (ws.drop (16 * i))
  ⟨row 0, row 1, row 2, row 3, row 4, row 5, row 6, row 7⟩

end Block

/-- Two blocks compressed into one. -/
def compress (p q : Block) : Block :=
  let r := p.xor q
  r.permuted.exchanged.permuted.exchanged.xor r

/-! ## Digests of any length -/

/-- `count` further links of a hash chain, half of each kept, and the whole of the last. -/
def chain : Nat → Bytes → Bytes
  | 0, link => link
  | count + 1, link => link.take 32 ++ chain count (blake2b 64 link)

/-- A digest of a kilobyte. -/
def longDigest (message : Bytes) : Bytes :=
  chain 30 (blake2b 64 (Bytes.littleEndian 4 1024 ++ message))

/-! ## Filling the memory -/

/-- Cost parameters: blocks of memory and passes over it. -/
structure Cost where
  /-- Blocks of memory, a multiple of four. -/
  blocks : Nat
  /-- Passes over the memory. -/
  passes : Nat
deriving DecidableEq

namespace Cost

variable (cost : Cost)

/-- A quarter of the memory: within it no block is chosen that is still to be written. -/
def quarter : Nat := cost.blocks / 4

/-- The schedule word block that names the choices of 128 blocks of a quarter. -/
def schedule (pass slice counter : Nat) : Block :=
  let seed := Block.ofWords
    ([pass, 0, slice, cost.blocks, cost.passes, 2, counter].map UInt64.ofNat)
  compress .zero (compress .zero seed)

/-- The schedule words of a quarter. -/
def scheduleWords (pass slice : Nat) : Array UInt64 :=
  ((List.range ((cost.quarter + 127) / 128)).flatMap fun i =>
    (cost.schedule pass slice (i + 1)).words).toArray

/-- How many finished blocks may be chosen for the block at `index` of a quarter. -/
def window (pass slice index : Nat) : Nat :=
  if pass = 0 then slice * cost.quarter + index - 1 else cost.blocks - cost.quarter + index - 1

/-- The position chosen by a word, nearer positions being likelier. -/
def chosen (pass slice index : Nat) (word : UInt64) : Nat :=
  let size := cost.window pass slice index
  let low := word.toNat % UInt32.size
  let back := size * (low * low / UInt32.size) / UInt32.size
  let start := if pass = 0 ∨ slice = 3 then 0 else (slice + 1) * cost.quarter
  (start + (size - 1 - back)) % cost.blocks

/-- The block at `index` of a quarter written. -/
def step (pass slice : Nat) (fixed : Array UInt64) (index : Nat) (memory : Array Block) :
    Array Block :=
  let position := slice * cost.quarter + index
  let before := memory.getD (if position = 0 then cost.blocks - 1 else position - 1) .zero
  let word := if fixed.isEmpty then before.r0.x0 else fixed.getD index 0
  let other := memory.getD (cost.chosen pass slice index word) .zero
  let fresh := compress before other
  let written := if pass = 0 then fresh else fresh.xor (memory.getD position .zero)
  memory.setIfInBounds position written

/-- A quarter written; the first two blocks of the first one are there already. -/
def fillQuarter (memory : Array Block) (pass slice : Nat) : Array Block :=
  let fixed := if pass = 0 ∧ slice < 2 then cost.scheduleWords pass slice else #[]
  let skip := if pass = 0 ∧ slice = 0 then 2 else 0
  (cost.quarter - skip).fold
    (fun index _ memory => cost.step pass slice fixed (skip + index) memory) memory

/-- The memory after all passes. -/
def fill (first second : Block) : Array Block :=
  let memory := ((Array.replicate cost.blocks Block.zero).setIfInBounds 0 first).setIfInBounds 1
    second
  (List.range cost.passes).foldl
    (fun memory pass => (List.range 4).foldl (fun memory slice => cost.fillQuarter memory pass slice)
      memory) memory

end Cost

/-- What the parameters, the password and the salt are hashed to before any block is written. -/
def seed (cost : Cost) (size : Nat) (password salt : Bytes) : Bytes :=
  let field := fun (bytes : Bytes) => Bytes.littleEndian 4 bytes.length ++ bytes
  blake2b 64 (([1, size, cost.blocks, cost.passes, 0x13, 2].flatMap (Bytes.littleEndian 4))
    ++ field password ++ field salt ++ field [] ++ field [])

/-- The block a seed gives the start of the memory. -/
def firstBlock (seed : Bytes) (index : Nat) : Block :=
  Block.ofWords (words64 (longDigest (seed ++ Bytes.littleEndian 4 index ++ Bytes.littleEndian 4 0)))

/-- A password stretched with a salt to `size` octets (at most 64). -/
def stretch (cost : Cost) (size : Nat) (password salt : Bytes) : Octets size :=
  let h := seed cost size password salt
  let memory := cost.fill (firstBlock h 0) (firstBlock h 1)
  let last := memory.getD (cost.blocks - 1) .zero
  Octets.fitted (blake2b size (Bytes.littleEndian 4 size ++ bytesOfWords last.words))

end DeviceAuth.Argon2
