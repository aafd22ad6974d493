import DeviceAuth.Proofs.Curve.Prime

/-!
# The field of coordinates

A coordinate is a residue, and its operations are the machine's. `asField` reads it as an element of
the field with `fieldOrder` elements, where the laws of a field are at hand; no two coordinates are
read as the same element, so an equation between coordinates is one between their readings.
-/

set_option autoImplicit false

namespace DeviceAuth.P256

instance : Fact fieldOrder.Prime := ⟨prime_fieldOrder⟩

/-- The field of coordinates. -/
abbrev Residue : Type := ZMod fieldOrder

/-- A coordinate as an element of the field. -/
def asField (x : Coordinate) : Residue := x.val

theorem asField_injective : Function.Injective asField := by
  intro x y h
  have same := (ZMod.natCast_eq_natCast_iff' x.val y.val fieldOrder).1 h
  rw [Nat.mod_eq_of_lt x.isLt, Nat.mod_eq_of_lt y.isLt] at same
  exact Fin.ext same

theorem asField_inj {x y : Coordinate} : asField x = asField y ↔ x = y := asField_injective.eq_iff

@[simp] theorem asField_mul (x y : Coordinate) : asField (x * y) = asField x * asField y :=
  cast_mul x y

theorem cast_add {m : ℕ} (x y : Fin m) : ((x + y).val : ZMod m) = x.val + y.val := by
  rw [Fin.val_add, ZMod.natCast_mod, Nat.cast_add]

@[simp] theorem asField_add (x y : Coordinate) : asField (x + y) = asField x + asField y :=
  cast_add x y

@[simp] theorem asField_sub (x y : Coordinate) : asField (x - y) = asField x - asField y := by
  unfold asField
  rw [Fin.val_sub, ZMod.natCast_mod, Nat.cast_add, Nat.cast_sub y.isLt.le, ZMod.natCast_self,
    zero_sub, neg_add_eq_sub]

@[simp] theorem asField_ofNat (n : ℕ) [n.AtLeastTwo] :
    asField (no_index (OfNat.ofNat n : Coordinate)) = OfNat.ofNat n := by
  show ((n % fieldOrder : ℕ) : Residue) = _
  rw [ZMod.natCast_mod]
  rfl

@[simp] theorem asField_zero : asField 0 = 0 := Nat.cast_zero

@[simp] theorem asField_one : asField 1 = 1 := Nat.cast_one

theorem asField_eq_zero_iff {x : Coordinate} : asField x = 0 ↔ x = 0 := by
  rw [← asField_zero, asField_inj]

theorem surjective_asField (x : Residue) : ∃ y : Coordinate, asField y = x :=
  ⟨⟨x.val, ZMod.val_lt x⟩, ZMod.natCast_zmod_val x⟩

/-! ## Inverses and roots -/

theorem asField_power (x : Coordinate) {exponent : ℕ} (h : exponent < 2 ^ 256) :
    asField (power x exponent) = asField x ^ exponent :=
  cast_power x h

/-- The power that stands for an inverse is one. -/
theorem cast_inverse {m : ℕ} [Fact m.Prime] (two : 2 < m) (small : m ≤ 2 ^ 256) (x : Fin m) :
    ((inverse x).val : ZMod m) = (x.val : ZMod m)⁻¹ := by
  unfold inverse
  rw [cast_power x (by omega)]
  by_cases zero : (x.val : ZMod m) = 0
  · rw [zero, inv_zero, zero_pow (by omega)]
  · have count : m - 2 + 1 = m - 1 := by omega
    refine eq_inv_of_mul_eq_one_left ?_
    rw [← pow_succ, count]
    exact ZMod.pow_card_sub_one_eq_one zero

@[simp] theorem asField_inverse (x : Coordinate) : asField (inverse x) = (asField x)⁻¹ :=
  cast_inverse (by decide) (by decide) x

/-- The power that stands for a root is one, up to its sign. -/
theorem root_mul_self (y : Coordinate) : root (y * y) = y ∨ root (y * y) = 0 - y := by
  have power : asField (root (y * y)) ^ 2 = asField y ^ 2 := by
    unfold root
    rw [asField_power _ (by decide), asField_mul, ← pow_two, ← pow_mul, ← pow_mul]
    by_cases zero : asField y = 0
    · rw [zero, zero_pow (by decide), zero_pow (by decide)]
    · have fermat := ZMod.pow_card_sub_one_eq_one zero
      have split : 2 * ((fieldOrder + 1) / 4 * 2) = fieldOrder - 1 + 2 := by decide
      rw [split, pow_add, fermat, one_mul]
  rcases sq_eq_sq_iff_eq_or_eq_neg.1 power with same | opposite
  · exact Or.inl (asField_injective same)
  · refine Or.inr (asField_injective ?_)
    rw [opposite, asField_sub, asField_zero, zero_sub]

end DeviceAuth.P256
