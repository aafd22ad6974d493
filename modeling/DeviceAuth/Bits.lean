import DeviceAuth.Bytes

/-!
# Bit strings

An octet string is also a string of bits, most significant first. The text codings cut that string
into groups of five or six bits, and the checksum divides it. `bitsOf` and `valueOf` pass between a
number and its bits, `digits` cuts a bit string into numbers of equal width, and `octets` reads
octets back and says what is left over.
-/

set_option autoImplicit false

namespace DeviceAuth.Bits

/-- The `width` low bits of a number, most significant first. -/
def bitsOf : Nat → Nat → List Bool
  | 0, _ => []
  | width + 1, n => n.testBit width :: bitsOf width n

/-- The number a bit string writes, most significant bit first. -/
def valueOf (bits : List Bool) : Nat := bits.foldl (fun n b => 2 * n + b.toNat) 0

/-- The bits of an octet string. -/
def ofBytes (bytes : Bytes) : List Bool := bytes.flatMap fun b => bitsOf 8 b.toNat

/-- The first `count` groups of `width` bits, as numbers; zeros follow where the bits run out. -/
def digits (width : Nat) : Nat → List Bool → List Nat
  | 0, _ => []
  | count + 1, bits =>
    let group := bits.take width
    valueOf (group ++ List.replicate (width - group.length) false)
      :: digits width count (bits.drop width)

/-- How many groups of `width` bits hold `length` bits. -/
def groups (width length : Nat) : Nat := (length + (width - 1)) / width

/-- The octets a bit string holds, and the bits after the last whole one. -/
def octets (bits : List Bool) : Bytes × List Bool :=
  let count := bits.length / 8
  ((digits 8 count bits).map UInt8.ofNat, bits.drop (8 * count))

@[simp] theorem length_bitsOf (width n : Nat) : (bitsOf width n).length = width := by
  induction width with
  | zero => rfl
  | succ width ih => simp [bitsOf, ih]

@[simp] theorem length_digits (width count : Nat) (bits : List Bool) :
    (digits width count bits).length = count := by
  induction count generalizing bits with
  | zero => rfl
  | succ count ih => simp [digits, ih]

@[simp] theorem length_ofBytes (bytes : Bytes) : (ofBytes bytes).length = 8 * bytes.length := by
  induction bytes with
  | nil => rfl
  | cons b bytes ih => simp [ofBytes] at ih ⊢; omega

end DeviceAuth.Bits
