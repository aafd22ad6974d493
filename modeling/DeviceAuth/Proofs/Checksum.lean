import DeviceAuth.Proofs.Bytes
import DeviceAuth.Checksum

/-!
# The checksum is linear

As a number, the register loses its lowest bit at each shift and takes the polynomial in if that bit was
set (`toNat_shift`). Exclusive or passes through that, so it passes through everything built from it:
`remainder count n` is the checksum of the `count` lowest octets of `n`, and the remainder of an
exclusive or is the exclusive or of the remainders. What this says of two codes is said there.
-/

set_option autoImplicit false

namespace DeviceAuth.Checksum

/-! ## Exclusive or of numbers -/

/-- Exclusive or acts on the high and the low part of a number apart. -/
theorem mul_add_xor_mul_add {width a b x y : Nat} (hx : x < 2 ^ width) (hy : y < 2 ^ width) :
    (a * 2 ^ width + x) ^^^ (b * 2 ^ width + y) = (a ^^^ b) * 2 ^ width + (x ^^^ y) := by
  have small : x ^^^ y < 2 ^ width := Nat.xor_lt_two_pow hx hy
  apply Nat.eq_of_testBit_eq
  intro i
  rw [Nat.testBit_xor, Nat.mul_comm a, Nat.mul_comm b, Nat.mul_comm (a ^^^ b),
    Nat.testBit_two_pow_mul_add _ hx, Nat.testBit_two_pow_mul_add _ hy,
    Nat.testBit_two_pow_mul_add _ small]
  split
  · rw [Nat.testBit_xor]
  · rw [Nat.testBit_xor]

/-! ## The register as a number -/

/-- The register after one bit has left it. -/
def step (register : Nat) : Nat := Nat.xor (register / 2) (register % 2 * 0xa001)

/-- The register after an octet. -/
def feed (register octet : Nat) : Nat :=
  step (step (step (step (step (step (step (step (Nat.xor register octet))))))))

/-- The checksum of the `count` lowest octets of a number, the highest of them first. -/
def remainder : Nat → Nat → Nat
  | 0, _ => 0
  | count + 1, n => feed (remainder count (n / 256)) (n % 256)

theorem toNat_shift (register : UInt16) : (shift register).toNat = step register.toNat := by
  have half : (register >>> 1).toNat = register.toNat / 2 := by
    rw [UInt16.toNat_shiftRight, Nat.shiftRight_eq_div_pow]
    rfl
  have low : (register &&& 1).toNat = register.toNat % 2 := by
    rw [UInt16.toNat_and]
    exact Nat.and_one_is_mod _
  unfold shift step
  by_cases set : register &&& 1 = 1
  · rw [set] at low
    rw [if_pos set, ← low, UInt16.toNat_xor, half]
    rfl
  · have clear : register.toNat % 2 = 0 := by
      have other : register.toNat % 2 ≠ 1 := by
        rw [← low]
        exact fun h => set (UInt16.toNat_inj.1 h)
      omega
    rw [if_neg set, clear, half]
    exact (Nat.xor_zero _).symm

theorem toNat_absorb (register : UInt16) (octet : UInt8) :
    (absorb register octet).toNat = feed register.toNat octet.toNat := by
  have start : (register ^^^ octet.toUInt16).toNat = Nat.xor register.toNat octet.toNat := by
    rw [UInt16.toNat_xor, UInt8.toNat_toUInt16]
    rfl
  unfold absorb feed
  rw [← start]
  simp only [Nat.repeat, toNat_shift]

/-- The checksum of a number written in octets is its remainder. -/
theorem toNat_crc16_bigEndian (count n : Nat) :
    (crc16 (Bytes.bigEndian count n)).toNat = remainder count n := by
  induction count generalizing n with
  | zero => rfl
  | succ count ih =>
    have last : Bytes.bigEndian (count + 1) n = Bytes.bigEndian count (n / 256) ++ [UInt8.ofNat n] := by
      simp [Bytes.bigEndian, Bytes.littleEndian]
    rw [last, crc16, List.foldl_append, List.foldl_cons, List.foldl_nil, toNat_absorb, UInt8.toNat_ofNat']
    show feed (crc16 _).toNat _ = _
    rw [ih]
    rfl

theorem toNat_crc16 (bytes : Bytes) :
    (crc16 bytes).toNat = remainder bytes.length (Bytes.ofBigEndian bytes) := by
  rw [← toNat_crc16_bigEndian, Bytes.bigEndian_ofBigEndian]

/-! ## Exclusive or -/

theorem step_xor (a b : Nat) : step (a ^^^ b) = step a ^^^ step b := by
  have half : (a ^^^ b) / 2 = a / 2 ^^^ b / 2 := Nat.xor_div_two
  have low : (a ^^^ b) % 2 = a % 2 ^^^ b % 2 := Nat.xor_mod_two_pow (n := 1)
  have taken : (a % 2 ^^^ b % 2) * 0xa001 = a % 2 * 0xa001 ^^^ b % 2 * 0xa001 := by
    rcases Nat.mod_two_eq_zero_or_one a with ha | ha <;>
      rcases Nat.mod_two_eq_zero_or_one b with hb | hb <;> rw [ha, hb] <;> rfl
  show (a ^^^ b) / 2 ^^^ (a ^^^ b) % 2 * 0xa001 = (a / 2 ^^^ a % 2 * 0xa001) ^^^ (b / 2 ^^^ b % 2 * 0xa001)
  rw [half, low, taken]
  ac_rfl

theorem feed_xor (a b x y : Nat) : feed (a ^^^ b) (x ^^^ y) = feed a x ^^^ feed b y := by
  have start : Nat.xor (a ^^^ b) (x ^^^ y) = Nat.xor a x ^^^ Nat.xor b y := by
    show (a ^^^ b) ^^^ (x ^^^ y) = (a ^^^ x) ^^^ (b ^^^ y)
    ac_rfl
  unfold feed
  rw [start]
  simp only [step_xor]

/-- **The remainder of an exclusive or is the exclusive or of the remainders.** -/
theorem remainder_xor (count a b : Nat) :
    remainder count (a ^^^ b) = remainder count a ^^^ remainder count b := by
  induction count generalizing a b with
  | zero => simp [remainder]
  | succ count ih =>
    have high : (a ^^^ b) / 256 = a / 256 ^^^ b / 256 := Nat.xor_div_two_pow (n := 8)
    have low : (a ^^^ b) % 256 = a % 256 ^^^ b % 256 := Nat.xor_mod_two_pow (n := 8)
    rw [remainder, high, low, ih, feed_xor]
    rfl

end DeviceAuth.Checksum
