import DeviceAuth.Curve.Key
import DeviceAuth.Proofs.Bytes
import DeviceAuth.Proofs.Curve.Group
import DeviceAuth.Proofs.Effects
import DeviceAuth.Proofs.Text.Radix

/-!
# Keys that travel

What a key exchange rests on. Both sides reach one shared secret (`sharedSecret_comm`), and a key
that was written out, public or private, is read back as the key it was (`PublicKey.ofBytes_bytes`,
`KeyPair.ofBytes_privateBytes`). Every scalar but zero has a key pair, so a statement about every
key pair is one about every such scalar.
-/

set_option autoImplicit false

namespace DeviceAuth

namespace P256

/-! ## Encoded points -/

theorem coordinate?_octets (x : Coordinate) : coordinate? (coordinateOctets x).bytes = some x := by
  have value : Bytes.ofBigEndian (coordinateOctets x).bytes = x.val := by
    show Bytes.ofBigEndian (Bytes.bigEndian 32 x.val) = x.val
    rw [Bytes.ofBigEndian_bigEndian]
    exact Nat.mod_eq_of_lt (x.isLt.trans_le (by decide))
  have small : Bytes.ofBigEndian (coordinateOctets x).bytes < fieldOrder := value ▸ x.isLt
  rw [coordinate?, dif_pos small]
  exact congrArg some (Fin.ext value)

theorem zero_sub_val {y : Coordinate} (h : y ≠ 0) : (0 - y).val = fieldOrder - y.val := by
  have pos : 0 < y.val := Nat.pos_of_ne_zero fun zero => h (Fin.ext zero)
  rw [Fin.val_sub]
  exact Nat.mod_eq_of_lt (by show fieldOrder - y.val + 0 < fieldOrder; omega)

theorem zero_sub_zero_sub (y : Coordinate) : 0 - (0 - y) = y := by
  apply asField_injective
  simp

/-- Of the two roots over a first coordinate, the parity tells which. -/
theorem ofParity?_eq (p : Point) : Point.ofParity? p.x (p.y.val % 2) = some p := by
  have chosen : (if (root (cubic p.x)).val % 2 = p.y.val % 2 then root (cubic p.x)
      else 0 - root (cubic p.x)) = p.y := by
    rw [← p.onCurve]
    rcases root_mul_self p.y with same | opposite
    · rw [same, if_pos rfl]
    · rw [opposite]
      by_cases zero : p.y = 0
      · rw [zero]
        decide
      · have odd : fieldOrder % 2 = 1 := by decide
        have flips : (0 - p.y).val % 2 ≠ p.y.val % 2 := by
          have below := p.y.isLt
          rw [zero_sub_val zero]
          omega
        rw [if_neg flips, zero_sub_zero_sub]
  unfold Point.ofParity? Point.ofCoordinates?
  simp only [chosen, dif_pos p.onCurve]

/-- **An encoded point is read back.** -/
theorem decode?_encode (p : Point) : Point.decode? p.encode = some p := by
  have length := (coordinateOctets p.x).length_eq
  have first := coordinate?_octets p.x
  have chosen := ofParity?_eq p
  unfold Point.encode Point.decode?
  rcases Nat.mod_two_eq_zero_or_one p.y.val with even | odd
  · rw [even] at chosen
    rw [if_pos even]
    dsimp only
    rw [if_neg (by decide), if_pos length, if_pos rfl, first, Option.bind_eq_bind, Option.bind_some]
    exact chosen
  · rw [odd] at chosen
    rw [if_neg (by rw [odd]; decide)]
    dsimp only
    rw [if_neg (by decide), if_pos length, if_neg (by decide), if_pos rfl, first,
      Option.bind_eq_bind, Option.bind_some]
    exact chosen

end P256

/-! ## Public keys -/

namespace PublicKey

@[simp] theorem ofBytes_bytes (key : PublicKey) : ofBytes key.bytes = .ok key := by
  simp [ofBytes, bytes, P256.decode?_encode]

theorem length_bytes (key : PublicKey) : key.bytes.length = size := by
  simp [bytes, P256.Point.encode, size, Octets.length_eq]

/-- What is read as a public key has 65 octets if the first of them is 4, and 33 otherwise. -/
theorem exists_of_ofBytes {bytes : Bytes} {key : PublicKey} (read : ofBytes bytes = .ok key) :
    ∃ first rest, bytes = first :: rest ∧ rest.length = if first = 0x04 then 64 else 32 := by
  unfold ofBytes P256.Point.decode? at read
  cases bytes with
  | nil => cases read
  | cons first rest =>
    refine ⟨first, rest, rfl, ?_⟩
    by_cases both : first = 0x04
    · rw [if_pos both]
      by_cases long : rest.length = 64
      · exact long
      · simp [both, long] at read
    · rw [if_neg both]
      by_cases short : rest.length = 32
      · exact short
      · simp [both, short] at read

@[simp] theorem decode_base64 (key : PublicKey) :
    Text.Base64.decode key.base64 = .ok key.bytes :=
  Text.Base64.decode_encode key.bytes

theorem base64_inj {x y : PublicKey} : x.base64 = y.base64 ↔ x = y := by
  constructor
  · intro same
    have read := x.decode_base64
    rw [same, y.decode_base64] at read
    have key := x.ofBytes_bytes
    rw [← Except.ok.inj read, y.ofBytes_bytes] at key
    exact (Except.ok.inj key).symm
  · rintro rfl
    rfl

end PublicKey

/-! ## Key pairs -/

namespace KeyPair

open P256

/-- A key pair is settled by its scalar. -/
theorem eq_of_scalar_eq {a b : KeyPair} (h : a.scalar = b.scalar) : a = b := by
  obtain ⟨scalar, ⟨p⟩, nonzero, agree⟩ := a
  obtain ⟨scalar', ⟨q⟩, nonzero', agree'⟩ := b
  obtain rfl : scalar = scalar' := h
  obtain rfl : p = q := Option.some.inj (agree.symm.trans agree')
  rfl

@[simp] theorem ofScalar?_scalar (pair : KeyPair) : ofScalar? pair.scalar = some pair := by
  unfold ofScalar?
  rw [dif_pos pair.scalar_ne_zero]
  split
  · next point agree =>
    exact congrArg some (eq_of_scalar_eq rfl)
  · next none =>
    rw [pair.agree] at none
    cases none

theorem scalar_lt (pair : KeyPair) : pair.scalar.val < 2 ^ 256 :=
  pair.scalar.isLt.trans_le (by decide)

/-- **A private key is read back.** -/
theorem ofBytes_privateBytes (pair : KeyPair) : ofBytes pair.privateBytes = .ok pair := by
  have value : Bytes.ofBigEndian pair.privateBytes = pair.scalar.val := by
    unfold privateBytes
    rw [Bytes.ofBigEndian_bigEndian]
    exact Nat.mod_eq_of_lt pair.scalar_lt
  have small : Bytes.ofBigEndian pair.privateBytes < groupOrder := value ▸ pair.scalar.isLt
  have scalar : (⟨Bytes.ofBigEndian pair.privateBytes, small⟩ : Scalar) = pair.scalar :=
    Fin.ext value
  have length : pair.privateBytes.length = 32 := Bytes.length_bigEndian 32 _
  simp [ofBytes, ofValue?, length, dif_pos small, scalar]

theorem sure_generate : generate.Sure := fun _ => ⟨_, _, rfl⟩

theorem element_publicKey (pair : KeyPair) :
    pair.publicKey.point.element = pair.scalar.val • base.element :=
  ((Point.multiple?_eq_some_iff pair.scalar_lt base _).1 pair.agree).symm

/-- **Both sides of a key exchange reach one secret.** -/
theorem sharedSecret_comm (a b : KeyPair) :
    a.sharedSecret b.publicKey = b.sharedSecret a.publicKey := by
  -- In the group, both sides are the product of the two scalars times the base point.
  have shared : b.publicKey.point.multiple? a.scalar.val
      = a.publicKey.point.multiple? b.scalar.val := by
    refine Point.multiple?_congr a.scalar_lt b.scalar_lt ?_
    rw [a.element_publicKey, b.element_publicKey, ← mul_nsmul, ← mul_nsmul, mul_comm]
  unfold sharedSecret
  rw [shared]

end KeyPair

end DeviceAuth
