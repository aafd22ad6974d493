import Mathlib.Algebra.Group.Nat.Defs
import DeviceAuth.Envelope
import DeviceAuth.KeyWrap

/-!
# A secret stretched block by block

Blocks are appended until there are enough octets, and the number of the next block is a word that could
start over. `Stretching.Reached` is the loop pass by pass, and `Stretching.Blocks` what every pass
preserves: the blocks there are have the numbers from one on, and the next number is one more than their
count. The word has room for all numbers as long as no more octets are asked for than
`32 * (2 ^ 32 - 2)`. With one octet more it starts over in the last pass (`Stretching.keepsCount_iff`).

Everything about the result is read off the invariant where the loop ends. An octet is settled by its
place alone, so that a shorter result is the beginning of a longer one, and the two keys a secret is
stretched to are the halves of one digest.
-/

set_option autoImplicit false

namespace DeviceAuth.Kdf

namespace Stretching

variable {secret info : Bytes} {size blocks : Nat} {s : Stretching}

/-! ## Passes -/

/-- What there is before a pass of the loop, after so many blocks. -/
inductive Reached (secret info : Bytes) (size : Nat) : Nat → Stretching → Prop
  | start : Reached secret info size 0 .start
  | grown {blocks : Nat} {s : Stretching} (before : Reached secret info size blocks s)
    (short : s.octets.length < size) : Reached secret info size (blocks + 1) (s.grow secret info)

/-- No pass of the loop makes the number of the next block start over. -/
def KeepsCount (secret info : Bytes) (size : Nat) : Prop :=
  ∀ blocks s, Reached secret info size blocks s → s.octets.length < size →
    (s.grow secret info).next.toNat = s.next.toNat + 1

/-- The octets are those of so many blocks, numbered from one on. -/
structure Blocks (secret info : Bytes) (blocks : Nat) (s : Stretching) : Prop where
  next : s.next.toNat = blocks + 1
  length : s.octets.length = 32 * blocks
  octets : ∀ k < 32 * blocks, s.octets[k]? = (x963Block secret info (k / 32 + 1)).bytes[k % 32]?

theorem blocks_start : Blocks secret info 0 .start := ⟨rfl, rfl, nofun⟩

theorem toNat_next_grow (room : s.next.toNat + 1 < 2 ^ 32) :
    (s.grow secret info).next.toNat = s.next.toNat + 1 :=
  (UInt32.toNat_add s.next 1).trans (Nat.mod_eq_of_lt room)

/-- One pass: a block is added, as long as there is a number after its own. -/
theorem Blocks.grow (b : Blocks secret info blocks s) (room : blocks + 2 < 2 ^ 32) :
    Blocks secret info (blocks + 1) (s.grow secret info) where
  next := by
    have own := b.next
    rw [toNat_next_grow (by omega), own]
  length := by
    rw [length_grow, b.length]
    omega
  octets k within := by
    have appended : (s.grow secret info).octets
        = s.octets ++ (x963Block secret info (blocks + 1)).bytes := by
      rw [Stretching.grow, b.next]
    rw [appended]
    rcases Nat.lt_or_ge k (32 * blocks) with before | last
    · rw [List.getElem?_append_left (b.length ▸ before), b.octets k before]
    · have number : k / 32 = blocks := by omega
      have place : k - 32 * blocks = k % 32 := by omega
      rw [List.getElem?_append_right (b.length ▸ last), b.length, number, place]

/-- A run: every pass whose blocks can be numbered has made just these blocks. -/
theorem blocks_of_reached (reached : Reached secret info size blocks s) (room : blocks + 1 < 2 ^ 32) :
    Blocks secret info blocks s := by
  induction reached with
  | start => exact blocks_start
  | grown before short ih => exact (ih (by omega)).grow room

/-- No more blocks are made than are needed. -/
theorem lt_of_reached (reached : Reached secret info size blocks s) (room : blocks + 1 < 2 ^ 32) :
    32 * blocks < size + 32 := by
  cases reached with
  | start => omega
  | grown before short =>
    have made := (blocks_of_reached before (by omega)).length
    omega

/-- The blocks that are needed have numbers. -/
theorem room_of_reached (fits : size ≤ 32 * (2 ^ 32 - 2))
    (reached : Reached secret info size blocks s) : blocks + 1 < 2 ^ 32 := by
  induction reached with
  | start => decide
  | grown before short room =>
    have made := (blocks_of_reached before room).length
    omega

theorem exists_reached (room : blocks + 1 < 2 ^ 32) (needed : 32 * blocks < size + 32) :
    ∃ s : Stretching, Reached secret info size blocks s := by
  induction blocks with
  | zero => exact ⟨_, .start⟩
  | succ blocks ih =>
    obtain ⟨s, reached⟩ := ih (by omega) (by omega)
    have made := (blocks_of_reached reached (by omega)).length
    exact ⟨_, reached.grown (by omega)⟩

/-- **The number of the next block never starts over** exactly if no more than `2 ^ 32 - 2` blocks are
needed. -/
theorem keepsCount_iff : KeepsCount secret info size ↔ size ≤ 32 * (2 ^ 32 - 2) := by
  constructor
  · intro keeps
    refine Nat.not_lt.1 fun more => ?_
    have room : 2 ^ 32 - 2 + 1 < 2 ^ 32 := by decide
    have needed : 32 * (2 ^ 32 - 2) < size + 32 := by omega
    obtain ⟨s, reached⟩ := exists_reached room needed
    have last := blocks_of_reached reached (by decide)
    have counted := keeps _ s reached (by rw [last.length]; omega)
    have bound := (s.grow secret info).next.toNat_lt
    rw [counted, last.next] at bound
    omega
  · intro fits blocks s reached short
    have made := blocks_of_reached reached (room_of_reached fits reached)
    have own := made.next
    have length := made.length
    exact toNat_next_grow (by omega)

/-! ## The end of the loop -/

theorem exists_reached_fill (reached : Reached secret info size blocks s) :
    ∃ count, Reached secret info size count (s.fill secret info size)
      ∧ size ≤ (s.fill secret info size).octets.length := by
  fun_induction fill secret info size s generalizing blocks with
  | case1 s short ih => exact ih (reached.grown short)
  | case2 s enough => exact ⟨blocks, reached, Nat.not_lt.1 enough⟩

/-- **The loop ends after as many blocks as are needed.** -/
theorem reached_fill (secret info : Bytes) (fits : size ≤ 32 * (2 ^ 32 - 2)) :
    Reached secret info size ((size + 31) / 32) (start.fill secret info size) := by
  have before : Reached secret info size 0 .start := .start
  obtain ⟨count, reached, enough⟩ := exists_reached_fill before
  have room := room_of_reached fits reached
  have length := (blocks_of_reached reached room).length
  have needed := lt_of_reached reached room
  obtain rfl : count = (size + 31) / 32 := by omega
  exact reached

end Stretching

/-! ## The stretched secret -/

variable {size : Nat} (secret info : Bytes)

theorem blocks_fill (fits : size ≤ 32 * (2 ^ 32 - 2)) :
    Stretching.Blocks secret info ((size + 31) / 32) (Stretching.start.fill secret info size) :=
  have reached := Stretching.reached_fill secret info fits
  Stretching.blocks_of_reached reached (Stretching.room_of_reached fits reached)

theorem length_x963 (fits : size ≤ 32 * (2 ^ 32 - 2)) : (x963 secret info size).length = size := by
  have length := (blocks_fill secret info fits).length
  rw [x963, List.length_take, length]
  omega

/-- An octet is that of its block, at its place. -/
theorem getElem?_x963 (fits : size ≤ 32 * (2 ^ 32 - 2)) {k : Nat} (within : k < size) :
    (x963 secret info size)[k]? = (x963Block secret info (k / 32 + 1)).bytes[k % 32]? := by
  rw [x963, List.getElem?_take_of_lt within]
  exact (blocks_fill secret info fits).octets k (by omega)

/-- **Less of a stretched secret is the beginning of more of it.** -/
theorem x963_eq_take (fits : size ≤ 32 * (2 ^ 32 - 2)) {less : Nat} (le : less ≤ size) :
    x963 secret info less = (x963 secret info size).take less := by
  refine List.ext_getElem? fun k => ?_
  rcases Nat.lt_or_ge k less with within | beyond
  · have inside : k < size := by omega
    rw [List.getElem?_take_of_lt within, getElem?_x963 secret info fits inside,
      getElem?_x963 secret info (by omega) within]
  · rw [List.getElem?_eq_none, List.getElem?_eq_none]
    · rw [List.length_take]
      omega
    · rw [length_x963 secret info (by omega)]
      exact beyond

/-- The octets of one block are the block. -/
theorem x963_block : x963 secret info 32 = (x963Block secret info 1).bytes := by
  refine List.ext_getElem? fun k => ?_
  rcases Nat.lt_or_ge k 32 with within | beyond
  · rw [getElem?_x963 secret info (by decide) within, Nat.div_eq_of_lt within, Nat.mod_eq_of_lt within]
  · rw [List.getElem?_eq_none, List.getElem?_eq_none]
    · rw [Octets.length_eq]
      exact beyond
    · rw [length_x963 secret info (by decide)]
      exact beyond

/-- **A secret is stretched block by block.** The number of the next block starts over in no pass of the
loop exactly if no more than `32 * (2 ^ 32 - 2)` octets are asked for. Then the loop ends after as many
blocks as are needed. There are as many octets as were asked for; each is the octet at its place in the
digest of the secret, the number of its block, counted from one, and the shared information; and less is
the beginning of more. The keys that wrap a key and those that seal a message are the halves of the first
such digest. -/
theorem stretched_block_by_block :
    (∀ (secret info : Bytes) (size : Nat),
      Stretching.KeepsCount secret info size ↔ size ≤ 32 * (2 ^ 32 - 2))
    ∧ (∀ (secret info : Bytes) (size : Nat), size ≤ 32 * (2 ^ 32 - 2) →
      Stretching.Reached secret info size ((size + 31) / 32) (Stretching.start.fill secret info size)
      ∧ (x963 secret info size).length = size
      ∧ (∀ k < size, (x963 secret info size)[k]?
        = (sha256 (secret ++ Bytes.bigEndian 4 (k / 32 + 1) ++ info)).bytes[k % 32]?)
      ∧ ∀ less ≤ size, x963 secret info less = (x963 secret info size).take less)
    ∧ (∀ lock : Bytes,
      let block := sha256 (lock ++ Bytes.bigEndian 4 1 ++ Bytes.ofText "pa-key-wrap")
      x963 lock (Bytes.ofText "pa-key-wrap") 32 = block.bytes
        ∧ KeyWrap.keys lock = ⟨block.front 16 16, block.back 16 16⟩)
    ∧ ∀ (shared : Octets 32) (info1 : Bytes),
      let block := sha256 (shared.bytes ++ Bytes.bigEndian 4 1 ++ info1)
      x963 shared.bytes info1 32 = block.bytes
        ∧ Envelope.keys shared info1 = ⟨block.front 16 16, block.back 16 16⟩ := by
  refine ⟨?count, ?octets, ?wrapping, ?envelope⟩
  case count => exact fun secret info size => Stretching.keepsCount_iff
  case octets =>
    intro secret info size fits
    exact ⟨Stretching.reached_fill secret info fits, length_x963 secret info fits,
      fun k => getElem?_x963 secret info fits, fun less => x963_eq_take secret info fits⟩
  case wrapping => exact fun lock => ⟨x963_block lock _, rfl⟩
  case envelope => exact fun shared info1 => ⟨x963_block shared.bytes info1, rfl⟩

/-- The most octets there can be end with the last octet of the block before the last number. One more
would make the number start over. -/
theorem stretched_to_the_limit :
    let most := 32 * (2 ^ 32 - 2)
    Stretching.KeepsCount [1] [2] most ∧ ¬Stretching.KeepsCount [1] [2] (most + 1)
      ∧ (x963 [1] [2] most).length = most
      ∧ (x963 [1] [2] most)[most - 1]?
        = (sha256 ([1] ++ Bytes.bigEndian 4 (2 ^ 32 - 2) ++ [2])).bytes[31]?
      ∧ x963 [1] [2] 48 = (x963 [1] [2] most).take 48 := by
  intro most
  obtain ⟨count, octets, -⟩ := stretched_block_by_block
  obtain ⟨-, length, at_place, shorter⟩ := octets [1] [2] most (Nat.le_refl _)
  have last := at_place (most - 1) (by decide)
  have block : (most - 1) / 32 + 1 = 2 ^ 32 - 2 := by decide
  have place : (most - 1) % 32 = 31 := by decide
  rw [block, place] at last
  have beyond : ¬most + 1 ≤ 32 * (2 ^ 32 - 2) := by decide
  exact ⟨(count _ _ _).2 (Nat.le_refl _), fun keeps => beyond ((count _ _ _).1 keeps), length, last,
    shorter 48 (by decide)⟩

end DeviceAuth.Kdf
