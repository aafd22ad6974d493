import DeviceAuth.Cipher.Aes

/-!
# The block cipher is undone by its inverse

`decrypt_encrypt` is put together from one fact about each step of a round. Adding a key is undone by
adding it again, moving the rows by moving them back, and the substitution by its table of inverses,
which is compared octet by octet.

Mixing a column is the step with an argument in it. All five multipliers are built from `double`, and
doubling respects exclusive or, so that a mixed and unmixed octet falls apart into one sum for each
octet of the column. The four sums (`unmixed_octet`) are the coefficients of the product of the two
mixing polynomials: one for the octet itself, zero for the others.
-/

set_option autoImplicit false

namespace DeviceAuth.Aes

/-- What holds of the 256 octets one by one holds of every octet. -/
theorem forall_octet {p : UInt8 → Prop} (h : ∀ i : Fin 256, p (UInt8.ofNat i.val)) (b : UInt8) :
    p b := by
  have := h ⟨b.toNat, b.toNat_lt⟩
  simpa using this

/-! ## Substitution -/

/-- The table of inverses, looked up at every entry of the table. -/
theorem map_inverseSubstitution :
    substitution.toList.map (fun b => inverseSubstitution.toList.getD b.toNat 0)
      = (List.range 256).map UInt8.ofNat := by
  decide +kernel

theorem restore_substitute (b : UInt8) : restore (substitute b) = b := by
  have size : substitution.size = 256 := by decide +kernel
  have hb : b.toNat < substitution.size := size ▸ b.toNat_lt
  have inside : b.toNat < substitution.toList.length := by simpa using hb
  have hs : substitute b = substitution.toList[b.toNat] := by
    simp [substitute, Array.getD, hb]
  have at_b := congrArg (fun octets => octets[b.toNat]?) map_inverseSubstitution
  rw [hs]
  simpa [restore, hb, b.toNat_lt] using at_b

/-! ## Multiplication -/

theorem double_xor (a b : UInt8) : double (a ^^^ b) = double a ^^^ double b := by
  have small : ∀ c : UInt8, (c < 0x80) = (c.toBitVec.msb = false) := by
    intro c
    rw [BitVec.msb_eq_decide]
    simp [UInt8.lt_iff_toNat_lt]
  have shifted : (a ^^^ b) <<< 1 = (a <<< 1) ^^^ (b <<< 1) := by
    apply UInt8.toBitVec_inj.1
    simp [BitVec.shiftLeft_xor_distrib]
  have cancel : ∀ x y c : UInt8, (x ^^^ c) ^^^ (y ^^^ c) = x ^^^ y := by
    intro x y c
    calc (x ^^^ c) ^^^ (y ^^^ c) = (x ^^^ y) ^^^ (c ^^^ c) := by ac_rfl
      _ = x ^^^ y := by simp
  simp only [double, small, shifted, UInt8.toBitVec_xor, BitVec.msb_xor]
  cases a.toBitVec.msb with
  | false =>
    cases b.toBitVec.msb with
    | false => simp
    | true => simp [UInt8.xor_assoc]
  | true =>
    cases b.toBitVec.msb with
    | false =>
      simp only [Bool.xor_false, Bool.true_eq_false, if_false, if_true]
      simp only [UInt8.xor_zero]
      ac_rfl
    | true => simp [cancel]

theorem times9_xor (a b : UInt8) : times9 (a ^^^ b) = times9 a ^^^ times9 b := by
  simp only [times9, double_xor]
  ac_rfl

theorem times11_xor (a b : UInt8) : times11 (a ^^^ b) = times11 a ^^^ times11 b := by
  simp only [times11, double_xor]
  ac_rfl

theorem times13_xor (a b : UInt8) : times13 (a ^^^ b) = times13 a ^^^ times13 b := by
  simp only [times13, double_xor]
  ac_rfl

theorem times14_xor (a b : UInt8) : times14 (a ^^^ b) = times14 a ^^^ times14 b := by
  simp only [times14, double_xor]
  ac_rfl

/-! ## Columns -/

/-- What becomes of an octet of a column in its own row and in the three others. -/
theorem unmixed_octet (b : UInt8) :
    times14 (double b) ^^^ times11 b ^^^ times13 b ^^^ times9 (times3 b) = b
      ∧ times14 (times3 b) ^^^ times11 (double b) ^^^ times13 b ^^^ times9 b = 0
      ∧ times14 b ^^^ times11 (times3 b) ^^^ times13 (double b) ^^^ times9 b = 0
      ∧ times14 b ^^^ times11 b ^^^ times13 (times3 b) ^^^ times9 (double b) = 0 := by
  revert b
  exact forall_octet (by decide +kernel)

/-- The top octet of a column, mixed and unmixed. The other three rows are the same sum over the
column turned. -/
theorem unmixed_row (a b c d : UInt8) :
    times14 (double a ^^^ times3 b ^^^ c ^^^ d) ^^^ times11 (a ^^^ double b ^^^ times3 c ^^^ d)
      ^^^ times13 (a ^^^ b ^^^ double c ^^^ times3 d)
      ^^^ times9 (times3 a ^^^ b ^^^ c ^^^ double d) = a := by
  simp only [times9_xor, times11_xor, times13_xor, times14_xor]
  calc _ = (times14 (double a) ^^^ times11 a ^^^ times13 a ^^^ times9 (times3 a))
        ^^^ (times14 (times3 b) ^^^ times11 (double b) ^^^ times13 b ^^^ times9 b)
        ^^^ (times14 c ^^^ times11 (times3 c) ^^^ times13 (double c) ^^^ times9 c)
        ^^^ (times14 d ^^^ times11 d ^^^ times13 (times3 d) ^^^ times9 (double d)) := by ac_rfl
    _ = a := by
      rw [(unmixed_octet a).1, (unmixed_octet b).2.1, (unmixed_octet c).2.2.1,
        (unmixed_octet d).2.2.2]
      simp

theorem Column.unmix_mix (p : Column) : p.mix.unmix = p := by
  obtain ⟨a, b, c, d⟩ := p
  simp only [Column.mix, Column.unmix, Column.mk.injEq]
  refine ⟨unmixed_row a b c d, ?_, ?_, ?_⟩
  · calc _ = _ := by ac_rfl
      _ = b := unmixed_row b c d a
  · calc _ = _ := by ac_rfl
      _ = c := unmixed_row c d a b
  · calc _ = _ := by ac_rfl
      _ = d := unmixed_row d a b c

theorem Column.map_restore_substitute (p : Column) : (p.map substitute).map restore = p := by
  obtain ⟨a, b, c, d⟩ := p
  simp only [map, restore_substitute]

theorem Column.xor_xor_cancel (p k : Column) : (p.xor k).xor k = p := by
  obtain ⟨a, b, c, d⟩ := p
  simp only [xor, UInt8.xor_assoc, UInt8.xor_self, UInt8.xor_zero]

/-! ## Blocks and rounds -/

theorem Block.xor_xor_cancel (x k : Block) : (x.xor k).xor k = x := by
  obtain ⟨p, q, r, s⟩ := x
  simp only [xor, Column.xor_xor_cancel]

theorem Block.unshift_shift (x : Block) : x.shift.unshift = x := rfl

theorem Block.map_unmix_mix (x : Block) : (x.map Column.mix).map Column.unmix = x := by
  obtain ⟨p, q, r, s⟩ := x
  simp only [map, Column.unmix_mix]

theorem Block.map_restore_substitute (x : Block) :
    (x.map (Column.map substitute)).map (Column.map restore) = x := by
  obtain ⟨p, q, r, s⟩ := x
  simp only [map, Column.map_restore_substitute]

theorem Block.ofOctets_octets (x : Block) : ofOctets x.octets = x := rfl

theorem Block.octets_ofOctets (x : Octets 16) : (ofOctets x).octets = x := by
  have h : x.bytes = (List.range 16).map fun i => x.bytes.getD i 0 := by
    apply List.ext_getElem
    · simp [x.length_eq]
    · intro i h₁ h₂
      simp [h₁]
  apply Octets.ext
  exact h.symm

theorem unround_round (x k : Block) : unround (round x k) k = x := by
  unfold round unround
  rw [Block.xor_xor_cancel, Block.map_unmix_mix, Block.unshift_shift, Block.map_restore_substitute]

/-- The rounds are undone from the last to the first. -/
theorem foldr_unround_foldl_round (ks : List Block) (x : Block) :
    ks.foldr (fun k y => unround y k) (ks.foldl round x) = x := by
  induction ks generalizing x with
  | nil => rfl
  | cons k ks ih =>
    show unround (ks.foldr (fun k y => unround y k) (ks.foldl round (round x k))) k = x
    rw [ih, unround_round]

theorem decryptBlock_encryptBlock (keys : Schedule) (x : Block) :
    decryptBlock keys (encryptBlock keys x) = x := by
  simp only [encryptBlock, decryptBlock, Block.xor_xor_cancel, Block.unshift_shift,
    Block.map_restore_substitute, foldr_unround_foldl_round]

/-- **Decryption undoes encryption**, under every key. -/
theorem decrypt_encrypt (key x : Octets 16) : decrypt key (encrypt key x) = x := by
  unfold decrypt encrypt
  rw [Block.ofOctets_octets, decryptBlock_encryptBlock, Block.octets_ofOctets]

theorem encrypt_inj {key x y : Octets 16} : encrypt key x = encrypt key y ↔ x = y := by
  constructor
  · intro same
    rw [← decrypt_encrypt key x, same, decrypt_encrypt]
  · rintro rfl
    rfl

end DeviceAuth.Aes
