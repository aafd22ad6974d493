import DeviceAuth.Curve.P256
import Mathlib.FieldTheory.Finite.Basic
import Mathlib.NumberTheory.LucasPrimality
import Mathlib.Tactic.NormNum.Prime

/-!
# The two orders are prime

The coordinates of the curve form a field, and its points a group without small subgroups, because
the order of the field and the order of the group are prime. Lucas's test shows that of a number `p`
from a residue whose power is one at `p - 1` and not before, and it needs the primes of `p - 1` for
"not before"; the large ones among them are shown prime in the same way.

The powers are those of `P256.power`, which the curve itself takes roots and inverses with. What it
computes is the power (`cast_power`), so to evaluate the test is to evaluate the curve's own code.
-/

set_option autoImplicit false

namespace DeviceAuth

/-! ## Loops over bits -/

theorem Bits.mod_two_pow_succ (width n : ℕ) :
    n % 2 ^ (width + 1) = 2 ^ width * (n.testBit width).toNat + n % 2 ^ width := by
  rw [pow_succ, Nat.mod_mul, Nat.testBit_eq_decide_div_mod_eq, add_comm]
  rcases Nat.mod_two_eq_zero_or_one (n / 2 ^ width) with h | h <;> simp [h]

/-- A loop over the bits of a number reaches what belongs to the number, if one bit takes what
belongs to `n` to what belongs to `2 * n` or the number after it. -/
theorem Bits.foldl_bitsOf {α : Type} (belongs : ℕ → α → Prop) {next : α → Bool → α} {start : α}
    (step : ∀ n a bit, belongs n a → belongs (2 * n + bit.toNat) (next a bit))
    (zero : belongs 0 start) {width n : ℕ} (h : n < 2 ^ width) :
    belongs n ((Bits.bitsOf width n).foldl next start) := by
  have loop : ∀ width k a, belongs k a →
      belongs (2 ^ width * k + n % 2 ^ width) ((Bits.bitsOf width n).foldl next a) := by
    intro width
    induction width with
    | zero =>
      intro k a hk
      simpa [Bits.bitsOf, Nat.mod_one] using hk
    | succ width ih =>
      intro k a hk
      have rest := ih _ _ (step k a (n.testBit width) hk)
      have value : 2 ^ width * (2 * k + (n.testBit width).toNat) + n % 2 ^ width
          = 2 ^ (width + 1) * k + n % 2 ^ (width + 1) := by
        rw [mod_two_pow_succ]
        ring
      rwa [value] at rest
  simpa [Nat.mod_eq_of_lt h] using loop width 0 start zero

namespace P256

/-! ## Powers -/

variable {m : ℕ}

theorem cast_mul (x y : Fin m) : ((x * y).val : ZMod m) = x.val * y.val := by
  rw [Fin.val_mul, ZMod.natCast_mod, Nat.cast_mul]

/-- **The power of a residue** is what it is called. -/
theorem cast_power (x : Fin m) {exponent : ℕ} (h : exponent < 2 ^ 256) :
    ((power x exponent).val : ZMod m) = (x.val : ZMod m) ^ exponent := by
  refine Bits.foldl_bitsOf (fun n (y : Fin m) => (y.val : ZMod m) = (x.val : ZMod m) ^ n) ?_ ?_ h
  · intro n y bit hy
    cases bit with
    | false =>
      simp only [Bool.false_eq_true, if_false, cast_mul, hy, Bool.toNat_false]
      ring
    | true =>
      simp only [if_true, cast_mul, hy, Bool.toNat_true]
      ring
  · rw [ZMod.natCast_mod, Nat.cast_one, pow_zero]

/-! ## Lucas's test -/

theorem cast_power_eq_one_iff (one_lt : 1 < m) (x : Fin m) {exponent : ℕ} (h : exponent < 2 ^ 256) :
    (x.val : ZMod m) ^ exponent = 1 ↔ (power x exponent).val = 1 := by
  have small : (power x exponent).val % m = (power x exponent).val :=
    Nat.mod_eq_of_lt (power x exponent).isLt
  rw [← cast_power x h, ← Nat.cast_one, ZMod.natCast_eq_natCast_iff', small,
    Nat.mod_eq_of_lt one_lt]

/-- A number is prime that has a residue of full order. The orders to rule out come from the primes
of the number before it, listed as often as they divide it. -/
theorem prime_of_power (x : Fin m) (primes : List ℕ) (one_lt : 1 < m) (small : m ≤ 2 ^ 256)
    (prime : ∀ q ∈ primes, q.Prime) (product : primes.prod = m - 1)
    (full : (power x (m - 1)).val = 1) (least : ∀ q ∈ primes, (power x ((m - 1) / q)).val ≠ 1) :
    m.Prime := by
  -- A prime that divides the product of the list is on the list, so the list covers every order.
  refine lucas_primality m (x.val : ZMod m) ?_ ?_
  · exact (cast_power_eq_one_iff one_lt x (by omega)).2 full
  · intro q hq divides
    rw [← product] at divides
    have listed : q ∈ primes :=
      mem_list_primes_of_dvd_prod hq.prime (fun p hp => (prime p hp).prime) divides
    have bound : (m - 1) / q < 2 ^ 256 := (Nat.div_le_self _ _).trans_lt (by omega)
    rw [Ne, cast_power_eq_one_iff one_lt x bound]
    exact least q listed

/-! ## Certificates -/

/-- A number, a residue of full order, and the primes of the number before it. -/
structure Certificate where
  number : ℕ
  residue : ℕ
  primes : List ℕ

namespace Certificate

/-- Whether a certificate passes the test, where some numbers are known to be prime. -/
def passes (known : List ℕ) (certificate : Certificate) : Bool :=
  if h : 1 < certificate.number then
    let x : Fin certificate.number :=
      ⟨certificate.residue % certificate.number, Nat.mod_lt _ (by omega)⟩
    certificate.number ≤ 2 ^ 256
      && certificate.primes.all (known.contains ·)
      && certificate.primes.prod == certificate.number - 1
      && (power x (certificate.number - 1)).val == 1
      && certificate.primes.all fun q => (power x ((certificate.number - 1) / q)).val != 1
  else false

/-- Whether the certificates of a list pass one after the other, each resting on those before it. -/
def chained : List ℕ → List Certificate → Bool
  | _, [] => true
  | known, certificate :: rest =>
    certificate.passes known && chained (certificate.number :: known) rest

theorem prime_of_passes {known : List ℕ} {certificate : Certificate}
    (prime : ∀ q ∈ known, q.Prime) (h : certificate.passes known = true) :
    certificate.number.Prime := by
  unfold passes at h
  split at h
  · next one_lt =>
    simp only [Bool.and_eq_true, decide_eq_true_eq, beq_iff_eq, bne_iff_ne, List.all_eq_true,
      List.contains_iff_mem] at h
    obtain ⟨⟨⟨⟨small, listed⟩, product⟩, full⟩, least⟩ := h
    exact prime_of_power _ certificate.primes one_lt small (fun q hq => prime q (listed q hq)) product
      full least
  · cases h

theorem prime_of_chained {known : List ℕ} {certificates : List Certificate}
    (prime : ∀ q ∈ known, q.Prime) (h : chained known certificates = true) :
    ∀ n ∈ certificates.map number, n.Prime := by
  induction certificates generalizing known with
  | nil => exact fun n hn => absurd hn List.not_mem_nil
  | cons certificate rest ih =>
    obtain ⟨passed, others⟩ := Bool.and_eq_true_iff.1 h
    have first := prime_of_passes prime passed
    have known' : ∀ q ∈ certificate.number :: known, q.Prime := List.forall_mem_cons.2 ⟨first, prime⟩
    exact List.forall_mem_cons.2 ⟨first, ih known' others⟩

end Certificate

/-! ## The two orders -/

/-- The primes small enough to be found by division. -/
def smallPrimes : List ℕ :=
  [2, 3, 5, 7, 11, 17, 23, 29, 41, 43, 53, 71, 107, 127, 131, 173, 197, 257, 311, 373, 641, 1297,
    1531, 2411, 3023, 3407, 3677, 3769, 16879, 17449, 18169, 38189, 65537, 78283, 126241, 155317, 490463,
    704251, 3969899, 6700417, 9350987]

theorem prime_of_mem_smallPrimes : ∀ q ∈ smallPrimes, q.Prime := by
  norm_num [smallPrimes]

/-- What leads from the small primes up to the order of the field. -/
def fieldCertificates : List Certificate :=
  [⟨204061199, 11, [2, 11, 23, 107, 3769]⟩,
    ⟨34282281433, 17, [2, 2, 2, 3, 7, 204061199]⟩,
    ⟨66417393611, 6, [2, 5, 53, 173, 197, 3677]⟩,
    ⟨11290956913871, 13, [2, 5, 17, 66417393611]⟩,
    ⟨46076956964474543, 5, [2, 23, 18169, 78283, 704251]⟩,
    ⟨774023187263532362759620327192479577272145303, 3,
      [2, 3, 3, 2411, 34282281433, 11290956913871, 46076956964474543]⟩,
    ⟨835945042244614951780389953367877943453916927241, 11,
      [2, 2, 2, 3, 3, 3, 5, 774023187263532362759620327192479577272145303]⟩,
    ⟨fieldOrder, 6, [2, 3, 5, 5, 17, 257, 641, 1531, 65537, 490463, 6700417,
      835945042244614951780389953367877943453916927241]⟩]

/-- What leads from the small primes up to the order of the group. -/
def groupCertificates : List Certificate :=
  [⟨187019741, 2, [2, 2, 5, 9350987]⟩,
    ⟨311245691, 2, [2, 5, 7, 17, 29, 29, 311]⟩,
    ⟨622491383, 5, [2, 311245691]⟩,
    ⟨1002328039319, 19, [2, 126241, 3969899]⟩,
    ⟨191039911, 3, [2, 3, 5, 41, 155317]⟩,
    ⟨208150935158385979, 2, [2, 3, 11, 43, 127, 3023, 191039911]⟩,
    ⟨2624747550333869278416773953, 7, [2, 2, 2, 2, 2, 2, 3, 3, 1297, 16879, 208150935158385979]⟩,
    ⟨groupOrder, 7, [2, 2, 2, 2, 3, 71, 131, 373, 3407, 17449, 38189, 187019741, 622491383,
      1002328039319, 2624747550333869278416773953]⟩]

/-- The order of the field is prime. -/
theorem prime_fieldOrder : fieldOrder.Prime := by
  have passed : Certificate.chained smallPrimes fieldCertificates = true := by decide +kernel
  exact Certificate.prime_of_chained prime_of_mem_smallPrimes passed _ (by simp [fieldCertificates])

/-- The order of the group is prime. -/
theorem prime_groupOrder : groupOrder.Prime := by
  have passed : Certificate.chained smallPrimes groupCertificates = true := by decide +kernel
  exact Certificate.prime_of_chained prime_of_mem_smallPrimes passed _ (by simp [groupCertificates])

end P256

end DeviceAuth
