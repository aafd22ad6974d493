import DeviceAuth.Curve.Ecdsa
import DeviceAuth.Proofs.Curve.Key

/-!
# A signature verifies

Both numbers of a signature are residues modulo the order of the group, which is prime. With a nonce
`k` the verifier adds two multiples of points that are multiples of the generator themselves; in the
field of residues the two multipliers come to `k`, so the sum is the point whose first coordinate the
signature gives (`verifyDigest_of_withNonce?`).

That there is a signature at all needs a word. Each nonce that is tried may fail, and the last two to be
tried are one and two. The numbers that go with them differ, so that both fail only for a private scalar
of zero (`search?_ne_none`). What is written is read back, since the writer never leaves the short form.
-/

set_option autoImplicit false

namespace DeviceAuth.Ecdsa

open P256

/-! ## Encoding -/

section Encoding

variable {n : ℕ}

theorem length_integerContent_le (n : ℕ) : (integerContent n).length ≤ 33 := by
  have short : (shortest n).length ≤ 32 := by
    have suffix := (List.dropWhile_sublist (· == 0) (l := Bytes.bigEndian 32 n)).length_le
    simpa [shortest] using suffix
  unfold integerContent
  split
  · simp
  · next b rest found =>
    rw [found] at short
    split
    · omega
    · simp only [List.length_cons] at short ⊢
      omega

theorem ofBigEndian_integerContent (small : n < 2 ^ 256) :
    Bytes.ofBigEndian (integerContent n) = n := by
  have value : Bytes.ofBigEndian (shortest n) = n := by
    rw [shortest, Bytes.ofBigEndian_dropWhile, Bytes.ofBigEndian_bigEndian]
    exact Nat.mod_eq_of_lt small
  unfold integerContent
  split
  · next none =>
    rw [none] at value
    simpa using value
  · next b rest found =>
    rw [found] at value
    split
    · exact value
    · rw [Bytes.ofBigEndian_zero_cons]
      exact value

theorem content?_element (tag : UInt8) (content rest : Bytes) (short : content.length < 256) :
    content? tag (element tag content ++ rest) = some (content, rest) := by
  have length : (UInt8.ofNat content.length).toNat = content.length := by
    rw [UInt8.toNat_ofNat']
    omega
  simp [element, content?, length]

/-- What a signature is written as is read back. -/
theorem Signature.decode?_encode {g : Signature} (range : g.inRange = true) :
    decode? g.encode = some g := by
  obtain ⟨r, s⟩ := g
  have small : groupOrder ≤ 2 ^ 256 := by decide
  have below : r < groupOrder ∧ s < groupOrder := by
    simp [inRange] at range
    omega
  have first := ofBigEndian_integerContent (n := r) (by omega)
  have second := ofBigEndian_integerContent (n := s) (by omega)
  have shortFirst := length_integerContent_le r
  have shortSecond := length_integerContent_le s
  let numbers := element 0x02 (integerContent r) ++ element 0x02 (integerContent s)
  have short : numbers.length < 256 := by
    simp only [numbers, element, List.length_append, List.length_cons]
    omega
  have outer : content? 0x30 (encode ⟨r, s⟩) = some (numbers, []) := by
    have found := content?_element 0x30 numbers [] short
    rwa [List.append_nil] at found
  have last : content? 0x02 (element 0x02 (integerContent s)) = some (integerContent s, []) := by
    have found := content?_element 0x02 (integerContent s) [] (by omega)
    rwa [List.append_nil] at found
  unfold decode?
  simp only [outer, Option.bind_eq_bind, Option.bind_some, numbers]
  rw [content?_element 0x02 _ _ (by omega)]
  simp only [Option.bind_some, last, first, second, range]
  simp

end Encoding

/-! ## The field of multipliers -/

instance : Fact groupOrder.Prime := ⟨prime_groupOrder⟩

/-- What a multiplier counts modulo the order of the group. -/
abbrev Multiplier : Type := ZMod groupOrder

variable {pair : KeyPair} {digest : Octets 32} {scalar z : Scalar} {nonce : ℕ} {p : Point} {g : Signature}

theorem cast_ofNat (n : ℕ) : ((Fin.ofNat groupOrder n).val : Multiplier) = n := by
  rw [Fin.val_ofNat, ZMod.natCast_mod]

theorem cast_inverse_scalar (x : Scalar) : ((inverse x).val : Multiplier) = (x.val : Multiplier)⁻¹ :=
  cast_inverse (by decide) (by decide) x

theorem cast_inj {x y : Scalar} : (x.val : Multiplier) = y.val ↔ x = y := by
  constructor
  · intro h
    have same := (ZMod.natCast_eq_natCast_iff' x.val y.val groupOrder).1 h
    rw [Nat.mod_eq_of_lt x.isLt, Nat.mod_eq_of_lt y.isLt] at same
    exact Fin.ext same
  · rintro rfl
    rfl

theorem cast_eq_zero_iff {x : Scalar} : (x.val : Multiplier) = 0 ↔ x = 0 := by
  have zero : (((0 : Scalar).val : ℕ) : Multiplier) = 0 := Nat.cast_zero
  rw [← zero, cast_inj]

theorem cast_ne_zero_of_range (pos : 0 < nonce) (small : nonce < groupOrder) :
    (nonce : Multiplier) ≠ 0 := by
  rw [Ne, ZMod.natCast_eq_zero_iff]
  intro divides
  exact absurd (Nat.le_of_dvd pos divides) (by omega)

/-- Multipliers of the generator that count the same give the same. -/
theorem nsmul_base_congr {k l : ℕ} (h : (k : Multiplier) = l) :
    k • base.element = l • base.element := by
  have same : k ≡ l [MOD groupOrder] := (ZMod.natCast_eq_natCast_iff k l groupOrder).1 h
  have order : addOrderOf base.element ∣ groupOrder :=
    addOrderOf_dvd_of_nsmul_eq_zero groupOrder_nsmul_base
  exact nsmul_eq_nsmul_iff_modEq.2 (same.of_dvd order)

/-! ## Signing -/

/-- The first number of the signatures with a nonce of this point. -/
def abscissa (p : Point) : Scalar := Fin.ofNat groupOrder p.x.val

/-- The second number of the signature with a nonce. -/
def proof (scalar z : Scalar) (nonce : ℕ) (p : Point) : Scalar :=
  inverse (Fin.ofNat groupOrder nonce) * (z + abscissa p * scalar)

theorem withNonce?_eq (pos : 0 < nonce) (small : nonce < groupOrder)
    (found : base.multiple? nonce = some p) :
    withNonce? scalar z nonce =
      if abscissa p ≠ 0 ∧ proof scalar z nonce p ≠ 0 then
        some ⟨(abscissa p).val, (proof scalar z nonce p).val⟩
      else none := by
  unfold withNonce? abscissa proof abscissa
  simp only [found, pos, small, and_self, guard, if_true, Option.bind_eq_bind]
  split
  · simp_all
  · simp_all

theorem exists_of_withNonce? (h : withNonce? scalar z nonce = some g) :
    0 < nonce ∧ nonce < groupOrder ∧ ∃ p, base.multiple? nonce = some p
      ∧ abscissa p ≠ 0 ∧ proof scalar z nonce p ≠ 0
      ∧ g = ⟨(abscissa p).val, (proof scalar z nonce p).val⟩ := by
  by_cases range : 0 < nonce ∧ nonce < groupOrder
  · obtain ⟨pos, small⟩ := range
    cases found : base.multiple? nonce with
    | none =>
      unfold withNonce? at h
      simp [found, guard] at h
    | some p =>
      rw [withNonce?_eq pos small found] at h
      split at h
      · next nonzero =>
        exact ⟨pos, small, p, rfl, nonzero.1, nonzero.2, (Option.some.inj h).symm⟩
      · cases h
  · unfold withNonce? at h
    simp [range, guard] at h

theorem inRange_of_withNonce? (h : withNonce? scalar z nonce = some g) : g.inRange = true := by
  obtain ⟨-, -, p, -, nonzero, nonzero', rfl⟩ := exists_of_withNonce? h
  have pos (x : Scalar) (h : x ≠ 0) : 0 < x.val := Nat.pos_of_ne_zero fun zero => h (Fin.ext zero)
  simp [Signature.inRange, pos _ nonzero, pos _ nonzero']

theorem cast_proof :
    ((proof scalar z nonce p).val : Multiplier)
      = (nonce : Multiplier)⁻¹ * (z.val + (abscissa p).val * scalar.val) := by
  unfold proof
  rw [cast_mul, cast_inverse_scalar, cast_ofNat, cast_add, cast_mul]

theorem sum_eq_zero_of_proof (pos : 0 < nonce) (small : nonce < groupOrder)
    (h : proof scalar z nonce p = 0) :
    (z.val : Multiplier) + (abscissa p).val * scalar.val = 0 := by
  have zero := cast_eq_zero_iff.2 h
  rw [cast_proof, mul_eq_zero, inv_eq_zero] at zero
  exact zero.resolve_left (cast_ne_zero_of_range pos small)

/-- **A signature with a nonce verifies**: the verifier's sum is the point of the nonce. -/
theorem verifyDigest_of_withNonce?
    (h : withNonce? pair.scalar (digestScalar digest) nonce = some g) :
    verifyDigest pair.publicKey digest g = true := by
  obtain ⟨pos, small, p, found, -, nonzero, rfl⟩ := exists_of_withNonce? h
  have bits : groupOrder ≤ 2 ^ 256 := by decide
  have point : nonce • base.element = p.element :=
    (Point.multiple?_eq_some_iff (by omega) base p).1 found
  let s := proof pair.scalar (digestScalar digest) nonce p
  let w := inverse (Fin.ofNat groupOrder s.val)
  let u := digestScalar digest * w
  let v := Fin.ofNat groupOrder (abscissa p).val * w
  have total : ((u.val + pair.scalar.val * v.val : ℕ) : Multiplier) = nonce := by
    have invertible : (nonce : Multiplier) ≠ 0 := cast_ne_zero_of_range pos small
    have inverted : (s.val : Multiplier) ≠ 0 := fun zero => nonzero (cast_eq_zero_iff.1 zero)
    have value : (nonce : Multiplier) * s.val
        = (digestScalar digest).val + (abscissa p).val * pair.scalar.val := by
      rw [cast_proof, mul_inv_cancel_left₀ invertible]
    simp only [u, v, w, Nat.cast_add, Nat.cast_mul, cast_mul, cast_inverse_scalar, cast_ofNat]
    field_simp
    linear_combination -value
  have sum : Stands
      ((Jacobian.multiple u.val (.ofPoint base)).add
        (Jacobian.multiple v.val (.ofPoint pair.publicKey.point))) p.element := by
    have first := (stands_ofPoint base).multiple (k := u.val) (u.isLt.trans_le bits)
    have second := (stands_ofPoint pair.publicKey.point).multiple (k := v.val) (v.isLt.trans_le bits)
    have both := first.add second
    rwa [pair.element_publicKey, ← mul_nsmul, ← add_nsmul, nsmul_base_congr total, point] at both
  have shown := (sum.point?_eq_some_iff p).2 rfl
  unfold verifyDigest
  dsimp only
  rw [shown]
  simp [abscissa]

/-! ## Finding a nonce -/

theorem exists_nonce_of_search? {tries : ℕ} {state : NonceState}
    (h : search? scalar z tries state = some g) : ∃ nonce, withNonce? scalar z nonce = some g := by
  induction tries generalizing state with
  | zero =>
    obtain ⟨nonce, -, found⟩ := List.exists_of_findSome?_eq_some h
    exact ⟨nonce, found⟩
  | succ tries ih =>
    unfold search? at h
    split at h
    · next found =>
      cases h
      exact ⟨_, found⟩
    · exact ih h

/-- The points of the nonces one and two. -/
theorem abscissas_differ :
    ∃ p q, base.multiple? 1 = some p ∧ base.multiple? 2 = some q
      ∧ abscissa p ≠ 0 ∧ abscissa q ≠ 0 ∧ abscissa p ≠ abscissa q := by
  have first : (base.multiple? 1).map abscissa = some (Fin.ofNat groupOrder base.x.val) := by
    decide +kernel
  have second : (base.multiple? 2).map abscissa = some
      0x7cf27b188d034f7e8a52380304b51ac3c08969e277f21b35a60b48fc47669978 := by
    decide +kernel
  obtain ⟨p, found, one⟩ := Option.map_eq_some_iff.1 first
  obtain ⟨q, found', two⟩ := Option.map_eq_some_iff.1 second
  refine ⟨p, q, found, found', ?_⟩
  rw [one, two]
  decide +kernel

/-- **A signature is found.** Were the nonces one and two both refused, the private scalar times the
difference of their first numbers would be zero. -/
theorem search?_ne_none (nonzero : scalar ≠ 0) (tries : ℕ) (state : NonceState) :
    search? scalar z tries state ≠ none := by
  induction tries generalizing state with
  | zero =>
    intro none
    obtain ⟨p, q, one, two, firstP, firstQ, apart⟩ := abscissas_differ
    have refused := List.findSome?_eq_none_iff.1 none
    have refusedP := refused 1 (by simp)
    have refusedQ := refused 2 (by simp)
    rw [withNonce?_eq (by decide) (by decide) one] at refusedP
    rw [withNonce?_eq (by decide) (by decide) two] at refusedQ
    have zeroP : proof scalar z 1 p = 0 := by simpa [firstP] using refusedP
    have zeroQ : proof scalar z 2 q = 0 := by simpa [firstQ] using refusedQ
    have sumP := sum_eq_zero_of_proof (by decide) (by decide) zeroP
    have sumQ := sum_eq_zero_of_proof (by decide) (by decide) zeroQ
    have product : ((abscissa p).val - (abscissa q).val : Multiplier) * scalar.val = 0 := by
      linear_combination sumP - sumQ
    rcases mul_eq_zero.1 product with same | zero
    · exact apart (cast_inj.1 (sub_eq_zero.1 same))
    · exact nonzero (cast_eq_zero_iff.1 zero)
  | succ tries ih =>
    unfold search?
    split
    · simp
    · exact ih _

theorem exists_nonce (nonzero : scalar ≠ 0) (digest : Octets 32) :
    ∃ nonce, withNonce? scalar (digestScalar digest) nonce = some (signDigest scalar digest) := by
  unfold signDigest
  cases found : search? scalar (digestScalar digest) 64 (.start scalar digest) with
  | none => exact absurd found (search?_ne_none nonzero _ _)
  | some g => exact exists_nonce_of_search? found

theorem verifies_of_decode? {key : PublicKey} {message signature : Bytes}
    (read : Signature.decode? signature = some g) :
    verifies key message signature = verifyDigest key (sha256 message) g := by
  rw [verifies, read]

/-- **What a key pair signs verifies under its public key**, whatever the message. -/
theorem verifies_sign (pair : KeyPair) (message : Bytes) :
    verifies pair.publicKey message (sign pair message) = true := by
  obtain ⟨nonce, made⟩ := exists_nonce pair.scalar_ne_zero (sha256 message)
  have read := Signature.decode?_encode (inRange_of_withNonce? made)
  rw [sign, verifies_of_decode? read]
  exact verifyDigest_of_withNonce? made

/-- Verifying never fails, it only answers. -/
theorem gives_verify (key : PublicKey) (message signature : Bytes) (a : Ambient) :
    ∃ a', (verify key message signature).Gives a (verifies key message signature) a' := by
  unfold verify
  split
  · exact ⟨_, Core.gives_bind.2 ⟨(), _, Core.gives_note.2 rfl, Core.gives_pure.2 ⟨rfl, rfl⟩⟩⟩
  · exact ⟨_, Core.gives_pure.2 ⟨rfl, rfl⟩⟩

end DeviceAuth.Ecdsa
