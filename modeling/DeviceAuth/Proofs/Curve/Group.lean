import DeviceAuth.Proofs.Curve.Field
import Mathlib.AlgebraicGeometry.EllipticCurve.Affine.Point
import Mathlib.Tactic.FieldSimp
import Mathlib.Tactic.LinearCombination

/-!
# Multiples are multiples in the group

The points of the curve are an abelian group, and Mathlib has it. The code computes in Jacobian
triples. `Stands t P` says which element of the group a triple stands for, and doubling, adding and
the loop over the bits of a multiplier each keep it: what a loop has reached after some bits stands
for the multiple those bits write. At its end a multiple is an affine point or nothing, and
`multiple?_eq_some_iff` says which, in terms of the group alone.

Everything the protocol needs of the curve follows from that one equivalence, commuting multiples
(`multiple?_comm`) first.
-/

set_option autoImplicit false

namespace DeviceAuth.P256

open WeierstrassCurve.Affine

/-! ## The curve -/

/-- The curve, over the field of coordinates. -/
def curve : WeierstrassCurve.Affine Residue := ⟨0, 0, 0, -3, asField constant⟩

/-- The group of points. -/
abbrev Group : Type := curve.Point

theorem equation_iff_cubic (x y : Residue) :
    curve.Equation x y ↔ y * y = x * x * x - 3 * x + asField constant := by
  rw [equation_iff]
  simp only [curve]
  constructor
  · intro h
    linear_combination h
  · intro h
    linear_combination h

@[simp] theorem asField_cubic (x : Coordinate) :
    asField (cubic x) = asField x * asField x * asField x - 3 * asField x + asField constant := by
  simp [cubic]

theorem equation_asField_iff (x y : Coordinate) :
    curve.Equation (asField x) (asField y) ↔ y * y = cubic x := by
  rw [equation_iff_cubic, ← asField_cubic, ← asField_mul, asField_inj]

/-- The curve has no singular point. -/
instance : curve.IsElliptic where
  isUnit := by
    have discriminant : curve.Δ = asField (1728 - 432 * (constant * constant)) := by
      simp only [WeierstrassCurve.Δ, WeierstrassCurve.b₂, WeierstrassCurve.b₄, WeierstrassCurve.b₆,
        WeierstrassCurve.b₈, curve, asField_sub, asField_mul, asField_ofNat]
      ring
    rw [isUnit_iff_ne_zero, discriminant, Ne, asField_eq_zero_iff]
    decide +kernel

theorem nonsingular_of_equation {x y : Residue} (h : curve.Equation x y) : curve.Nonsingular x y :=
  equation_iff_nonsingular.1 h

namespace Point

/-- A point as an element of the group. -/
def element (p : Point) : Group :=
  .some (asField p.x) (asField p.y)
    (nonsingular_of_equation ((equation_asField_iff p.x p.y).2 p.onCurve))

theorem element_ne_zero (p : Point) : p.element ≠ 0 := Point.some_ne_zero _

theorem element_injective : Function.Injective element := by
  rintro ⟨x, y, _⟩ ⟨x', y', _⟩ h
  unfold element at h
  injection h with hx hy
  obtain rfl := asField_injective hx
  obtain rfl := asField_injective hy
  rfl

end Point

/-! ## Triples -/

/-- A triple stands for an element of the group: for zero if its last part is zero, and else for the
point it is a fraction of. -/
inductive Stands (t : Jacobian) : Group → Prop
  | zero (z : asField t.z = 0) : Stands t 0
  | point {x y : Residue} (h : curve.Nonsingular x y) (z : asField t.z ≠ 0)
      (hx : asField t.x = x * asField t.z ^ 2) (hy : asField t.y = y * asField t.z ^ 3) :
      Stands t (.some x y h)

theorem stands_neutral : Stands .neutral 0 := .zero asField_zero

theorem stands_ofPoint (p : Point) : Stands (.ofPoint p) p.element := by
  refine .point _ ?_ ?_ ?_
  · simp [Jacobian.ofPoint]
  · simp [Jacobian.ofPoint]
  · simp [Jacobian.ofPoint]

theorem two_ne_zero_residue : (2 : Residue) ≠ 0 := by
  rw [← asField_ofNat 2, Ne, asField_eq_zero_iff]
  decide

theorem curve_negY (x y : Residue) : curve.negY x y = -y := by
  simp [negY, curve]

theorem curve_addX (x x' slope : Residue) : curve.addX x x' slope = slope ^ 2 - x - x' := by
  simp [addX, curve]

theorem curve_addY (x x' y slope : Residue) :
    curve.addY x x' y slope = slope * (x - (slope ^ 2 - x - x')) - y := by
  simp only [addY, negAddY, curve_negY, curve_addX]
  ring

/-- **Doubling a triple** doubles what it stands for. -/
theorem Stands.double {t : Jacobian} {P : Group} (h : Stands t P) : Stands t.double (P + P) := by
  cases h with
  | zero z =>
    rw [add_zero]
    exact .zero (by simp [Jacobian.double, z])
  | @point x y h z hx hy =>
    by_cases vertical : y = 0
    · have opposite : y = curve.negY x y := by rw [curve_negY, vertical, neg_zero]
      rw [Point.add_self_of_Y_eq opposite]
      exact .zero (by simp [Jacobian.double, hy, vertical])
    · have tangent : y ≠ curve.negY x y := by
        rw [curve_negY, Ne, eq_neg_iff_add_eq_zero, ← two_mul, mul_eq_zero, not_or]
        exact ⟨two_ne_zero_residue, vertical⟩
      have slope : curve.slope x x y y = (3 * x ^ 2 - 3) / (2 * y) := by
        rw [slope_of_Y_ne rfl tangent]
        simp [curve]
        ring
      rw [Point.add_self_of_Y_ne tangent]
      have two := two_ne_zero_residue
      refine .point _ ?_ ?_ ?_
      · simp [Jacobian.double, hy, z, vertical, two]
      · rw [curve_addX, slope]
        simp only [Jacobian.double, asField_sub, asField_mul, asField_add, asField_ofNat, hx, hy]
        field_simp
        ring
      · rw [curve_addY, slope]
        simp only [Jacobian.double, asField_sub, asField_mul, asField_add, asField_ofNat, hx, hy]
        field_simp
        ring

theorem asField_run {t u : Jacobian} {x x' : Residue} (hx : asField t.x = x * asField t.z ^ 2)
    (hx' : asField u.x = x' * asField u.z ^ 2) :
    asField (u.x * (t.z * t.z) - t.x * (u.z * u.z))
      = (x' - x) * (asField t.z ^ 2 * asField u.z ^ 2) := by
  simp only [asField_sub, asField_mul, hx, hx']
  ring

theorem asField_rise {t u : Jacobian} {y y' : Residue} (hy : asField t.y = y * asField t.z ^ 3)
    (hy' : asField u.y = y' * asField u.z ^ 3) :
    asField (u.y * (t.z * (t.z * t.z)) - t.y * (u.z * (u.z * u.z)))
      = (y' - y) * (asField t.z ^ 3 * asField u.z ^ 3) := by
  simp only [asField_sub, asField_mul, hy, hy']
  ring

/-- **Adding two triples** adds what they stand for. -/
theorem Stands.add {t u : Jacobian} {P Q : Group} (ht : Stands t P) (hu : Stands u Q) :
    Stands (t.add u) (P + Q) := by
  cases ht with
  | zero z =>
    rw [zero_add, Jacobian.add, if_pos (asField_eq_zero_iff.1 z)]
    exact hu
  | @point x y h z hx hy =>
    have zt : ¬t.z = 0 := fun zero => z (asField_eq_zero_iff.2 zero)
    cases hu with
    | zero w =>
      rw [add_zero, Jacobian.add, if_neg zt, if_pos (asField_eq_zero_iff.1 w)]
      exact .point h z hx hy
    | @point x' y' h' w hx' hy' =>
      have zu : ¬u.z = 0 := fun zero => w (asField_eq_zero_iff.2 zero)
      have run := asField_run hx hx'
      have rise := asField_rise hy hy'
      -- The code branches on two differences of triples. They are the differences of the
      -- coordinates, scaled, so its branches are those of the group law.
      have above : u.x * (t.z * t.z) - t.x * (u.z * u.z) = 0 ↔ x' = x := by
        rw [← asField_eq_zero_iff, run]
        simp [z, w, sub_eq_zero]
      have level : u.y * (t.z * (t.z * t.z)) - t.y * (u.z * (u.z * u.z)) = 0 ↔ y' = y := by
        rw [← asField_eq_zero_iff, rise]
        simp [z, w, sub_eq_zero]
      rw [Jacobian.add, if_neg zt, if_neg zu]
      dsimp only
      by_cases same : x' = x
      · rw [if_pos (above.2 same)]
        subst same
        by_cases again : y' = y
        · rw [if_pos (level.2 again)]
          subst again
          exact (Stands.point h z hx hy).double
        · have opposite : y = curve.negY x' y' := by
            rcases Y_eq_of_X_eq h.1 h'.1 rfl with same | opposite
            · exact absurd same.symm again
            · exact opposite
          rw [if_neg fun flat => again (level.1 flat), Point.add_of_Y_eq rfl opposite]
          exact stands_neutral
      · have apart : x - x' ≠ 0 := sub_ne_zero.2 (Ne.symm same)
        rw [if_neg fun flat => same (above.1 flat), Point.add_of_X_ne (Ne.symm same)]
        refine .point _ ?_ ?_ ?_
        · rw [asField_mul, run, asField_mul]
          simp [z, w, sub_eq_zero, same]
        · rw [curve_addX, slope_of_X_ne (Ne.symm same)]
          simp only [asField_sub, asField_mul, asField_ofNat, hx, hx', hy, hy']
          field_simp
          ring
        · rw [curve_addY, slope_of_X_ne (Ne.symm same)]
          simp only [asField_sub, asField_mul, asField_ofNat, hx, hx', hy, hy']
          field_simp
          ring

/-! ## Multiples -/

/-- **A multiple of a triple** stands for the multiple of what the triple stands for. -/
theorem Stands.multiple {t : Jacobian} {P : Group} (h : Stands t P) {k : ℕ} (hk : k < 2 ^ 256) :
    Stands (Jacobian.multiple k t) (k • P) := by
  -- Once the bits of `n` have been read, the triple stands for `n • P`.
  refine Bits.foldl_bitsOf (fun n q => Stands q (n • P)) ?_ ?_ hk
  · intro n q bit hq
    cases bit with
    | false =>
      have twice : (2 * n + Bool.toNat false) • P = n • P + n • P := by
        rw [Bool.toNat_false, add_zero, two_mul, add_nsmul]
      rw [twice]
      exact hq.double
    | true =>
      have twice : (2 * n + Bool.toNat true) • P = n • P + n • P + P := by
        rw [Bool.toNat_true, add_nsmul, two_mul, add_nsmul, one_nsmul]
      rw [twice]
      exact hq.double.add h
  · rw [zero_nsmul]
    exact stands_neutral

/-- A triple has the affine point of what it stands for. -/
theorem Stands.point?_eq_some_iff {t : Jacobian} {P : Group} (h : Stands t P) (p : Point) :
    t.point? = some p ↔ P = p.element := by
  cases h with
  | zero z =>
    rw [Jacobian.point?, if_pos (asField_eq_zero_iff.1 z)]
    simp [Ne.symm p.element_ne_zero]
  | @point x y h z hx hy =>
    have zt : ¬t.z = 0 := fun zero => z (asField_eq_zero_iff.2 zero)
    obtain ⟨x, rfl⟩ := surjective_asField x
    obtain ⟨y, rfl⟩ := surjective_asField y
    have first : t.x * (inverse t.z * inverse t.z) = x := by
      apply asField_injective
      simp only [asField_mul, asField_inverse, hx]
      field_simp
    have second : t.y * (inverse t.z * (inverse t.z * inverse t.z)) = y := by
      apply asField_injective
      simp only [asField_mul, asField_inverse, hy]
      field_simp
    have onCurve : y * y = cubic x := (equation_asField_iff x y).1 h.1
    rw [Jacobian.point?, if_neg zt]
    simp only [first, second, Point.ofCoordinates?, dif_pos onCurve, Option.some.injEq]
    constructor
    · rintro rfl
      rfl
    · intro same
      exact Point.element_injective same

/-- **The multiple of a point**, where there is one, is its multiple in the group. -/
theorem Point.multiple?_eq_some_iff {k : ℕ} (hk : k < 2 ^ 256) (p q : Point) :
    p.multiple? k = some q ↔ k • p.element = q.element :=
  ((stands_ofPoint p).multiple hk).point?_eq_some_iff q

/-- Only zero has no affine point. -/
theorem Point.exists_element {P : Group} (h : P ≠ 0) : ∃ p : Point, p.element = P := by
  cases P with
  | zero => exact absurd rfl h
  | some x y hxy =>
    obtain ⟨x, rfl⟩ := surjective_asField x
    obtain ⟨y, rfl⟩ := surjective_asField y
    exact ⟨⟨x, y, (equation_asField_iff x y).1 hxy.1⟩, rfl⟩

theorem Point.multiple?_eq_none_iff {k : ℕ} (hk : k < 2 ^ 256) (p : Point) :
    p.multiple? k = none ↔ k • p.element = 0 := by
  constructor
  · intro none
    by_contra nonzero
    obtain ⟨q, hq⟩ := exists_element nonzero
    have some := (multiple?_eq_some_iff hk p q).2 hq.symm
    rw [none] at some
    cases some
  · intro zero
    cases found : p.multiple? k with
    | none => rfl
    | some q =>
      have hq := (multiple?_eq_some_iff hk p q).1 found
      exact absurd (hq.symm.trans zero) q.element_ne_zero

/-- Equal multiples in the group are found equal. -/
theorem Point.multiple?_congr {k l : ℕ} (hk : k < 2 ^ 256) (hl : l < 2 ^ 256) {p q : Point}
    (h : k • p.element = l • q.element) : p.multiple? k = q.multiple? l := by
  cases found : p.multiple? k with
  | none =>
    rw [multiple?_eq_none_iff hk, h] at found
    exact ((multiple?_eq_none_iff hl q).2 found).symm
  | some r =>
    rw [multiple?_eq_some_iff hk, h] at found
    exact ((multiple?_eq_some_iff hl q r).2 found).symm

/-! ## The generator -/

/-- The order of the group takes the generator to zero. -/
theorem groupOrder_nsmul_base : groupOrder • base.element = 0 := by
  rw [← Point.multiple?_eq_none_iff (by decide)]
  decide +kernel

end DeviceAuth.P256
