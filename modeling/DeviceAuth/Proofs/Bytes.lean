import Mathlib.Algebra.Group.Nat.Defs
import DeviceAuth.Bytes

/-!
# What byte strings keep

Numbers and texts come back from the octets they were written as, and the comparison that looks at
every octet is equality.
-/

set_option autoImplicit false

namespace DeviceAuth.Bytes

/-! ## Numbers -/

theorem ofLittleEndian_littleEndian (width n : Nat) :
    ofLittleEndian (littleEndian width n) = n % 256 ^ width := by
  induction width generalizing n with
  | zero => simp [littleEndian, ofLittleEndian, Nat.mod_one]
  | succ width ih =>
    have head : (UInt8.ofNat n).toNat = n % 256 := by
      rw [UInt8.toNat_ofNat']
    rw [littleEndian, ofLittleEndian, ih, head, Nat.pow_succ', Nat.mod_mul]

theorem ofBigEndian_bigEndian (width n : Nat) :
    ofBigEndian (bigEndian width n) = n % 256 ^ width := by
  rw [ofBigEndian, bigEndian, List.reverse_reverse, ofLittleEndian_littleEndian]

theorem ofLittleEndian_lt (bytes : Bytes) : ofLittleEndian bytes < 256 ^ bytes.length := by
  induction bytes with
  | nil => simp [ofLittleEndian]
  | cons b rest ih =>
    have low := b.toNat_lt
    rw [ofLittleEndian, List.length_cons, Nat.pow_succ]
    omega

/-- Each number of a fixed width is written in one way. -/
theorem littleEndian_ofLittleEndian (bytes : Bytes) :
    littleEndian bytes.length (ofLittleEndian bytes) = bytes := by
  induction bytes with
  | nil => rfl
  | cons b rest ih =>
    have low := b.toNat_lt
    have head : UInt8.ofNat (b.toNat + 256 * ofLittleEndian rest) = b := by
      apply UInt8.toNat_inj.1
      rw [UInt8.toNat_ofNat']
      omega
    have tail : (b.toNat + 256 * ofLittleEndian rest) / 256 = ofLittleEndian rest := by omega
    rw [ofLittleEndian, List.length_cons, littleEndian, head, tail, ih]

theorem ofLittleEndian_append (low high : Bytes) :
    ofLittleEndian (low ++ high) = ofLittleEndian low + 256 ^ low.length * ofLittleEndian high := by
  induction low with
  | nil => simp [ofLittleEndian]
  | cons b rest ih =>
    rw [List.cons_append, ofLittleEndian, ofLittleEndian, ih, List.length_cons, Nat.pow_succ']
    grind

theorem bigEndian_ofBigEndian (bytes : Bytes) : bigEndian bytes.length (ofBigEndian bytes) = bytes := by
  have back := littleEndian_ofLittleEndian bytes.reverse
  rw [List.length_reverse] at back
  rw [bigEndian, ofBigEndian, back, List.reverse_reverse]

theorem ofBigEndian_append (high low : Bytes) :
    ofBigEndian (high ++ low) = ofBigEndian high * 256 ^ low.length + ofBigEndian low := by
  rw [ofBigEndian, List.reverse_append, ofLittleEndian_append, List.length_reverse, Nat.add_comm,
    Nat.mul_comm]
  rfl

@[simp] theorem ofBigEndian_zero_cons (bytes : Bytes) :
    ofBigEndian (0 :: bytes) = ofBigEndian bytes := by
  simp [ofBigEndian, ofLittleEndian_append, ofLittleEndian]

/-- Leading zeros do not count. -/
theorem ofBigEndian_dropWhile (bytes : Bytes) :
    ofBigEndian (bytes.dropWhile (· == 0)) = ofBigEndian bytes := by
  induction bytes with
  | nil => rfl
  | cons b rest ih =>
    by_cases zero : b = 0
    · simp [zero, ih]
    · simp [zero]

/-- The word behind eight zeros is the number all sixteen octets write. -/
theorem ofBigEndian_ofWord (word : UInt64) :
    ofBigEndian (Octets.ofWord word).bytes = word.toNat := by
  have small : word.toNat < 256 ^ 8 := word.toNat_lt
  show ofBigEndian (List.replicate 8 0 ++ bigEndian 8 word.toNat) = word.toNat
  simp only [List.replicate, List.cons_append, List.nil_append, ofBigEndian_zero_cons,
    ofBigEndian_bigEndian]
  exact Nat.mod_eq_of_lt small

/-! ## Texts -/

theorem text?_ofText (text : String) : text? (ofText text) = some text := by
  have h : (⟨(ofText text).toArray⟩ : ByteArray) = text.toUTF8 := by
    simp [ofText]
  unfold text? String.fromUTF8?
  rw [h]
  exact dif_pos text.isValidUTF8

theorem ofText_inj {text text' : String} : ofText text = ofText text' ↔ text = text' := by
  constructor
  · intro h
    have read := text?_ofText text
    rw [h, text?_ofText] at read
    exact (Option.some.inj read).symm
  · rintro rfl
    rfl

/-- Octets that encode a text are the encoding of it. -/
theorem ofText_of_text? {bytes : Bytes} {text : String} (h : text? bytes = some text) :
    ofText text = bytes := by
  unfold text? String.fromUTF8? at h
  split at h
  · obtain rfl := Option.some.inj h
    simp [ofText, String.fromUTF8]
  · cases h

/-! ## Comparison -/

theorem foldl_or_eq_zero (xs : Bytes) (start : UInt8) :
    xs.foldl (· ||| ·) start = 0 ↔ start = 0 ∧ ∀ x ∈ xs, x = 0 := by
  induction xs generalizing start with
  | nil => simp
  | cons x xs ih =>
    rw [List.foldl_cons, ih, UInt8.or_eq_zero_iff]
    simp [and_assoc]

/-- **Two strings match exactly when they are equal.** -/
theorem matching_iff {a b : Bytes} : matching a b = true ↔ a = b := by
  unfold matching
  simp only [Bool.and_eq_true, beq_iff_eq, foldl_or_eq_zero, true_and]
  constructor
  · rintro ⟨length, zero⟩
    apply List.ext_getElem length
    intro i hi hj
    have inside : i < (xor a b).length := by
      simp only [xor, List.length_zipWith]
      omega
    have at_i : (xor a b)[i] = 0 := zero _ (List.getElem_mem inside)
    simpa [xor] using at_i
  · rintro rfl
    refine ⟨rfl, fun x hx => ?_⟩
    obtain ⟨i, hi, rfl⟩ := List.getElem_of_mem hx
    simp [xor]

@[simp] theorem matching_self (a : Bytes) : matching a a = true :=
  matching_iff.2 rfl

end DeviceAuth.Bytes
