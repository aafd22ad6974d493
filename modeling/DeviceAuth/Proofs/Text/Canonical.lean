import Mathlib.Data.Option.Basic
import DeviceAuth.Proofs.Text.Radix

/-!
# Only a spelling is read

`Alphabet.read?` is strict, and this is what its strictness comes to: a text is read as some octets
exactly when it is their spelling (`Alphabet.Faithful.read?_eq_some_iff`), so that octets have one
spelling and a text that is no spelling is refused.

The way back goes through the same three representations. Octets and the bits left over are the bits
they were cut from (`Bits.ofBytes_octets`), and groups of equal width are determined by the bits they
make (`Bits.flatMap_bitsOf_inj`). The spare bits are zeros, so both sides of the second fact are the
octets with the zeros that fill the last group up.
-/

set_option autoImplicit false

namespace DeviceAuth

namespace Bits

variable {width : Nat}

/-! ## Octets and what is left over -/

/-- The octets cut from some bits are the bits as far as they go. -/
theorem ofBytes_digits {count : Nat} {bits : List Bool} (h : 8 * count ≤ bits.length) :
    ofBytes ((digits 8 count bits).map UInt8.ofNat) = bits.take (8 * count) := by
  induction count generalizing bits with
  | zero => rfl
  | succ count ih =>
    let group := bits.take 8
    have length : group.length = 8 := by
      rw [List.length_take]
      omega
    have small : valueOf group < 256 := by
      have lt := valueOf_lt group
      rwa [length] at lt
    have octet : (UInt8.ofNat (valueOf group)).toNat = valueOf group :=
      UInt8.toNat_ofNat_of_lt' small
    have first : bitsOf 8 (valueOf group) = group := by
      have back := bitsOf_valueOf group
      rwa [length] at back
    have rest : 8 * count ≤ (bits.drop 8).length := by
      rw [List.length_drop]
      omega
    have full : group ++ List.replicate (8 - group.length) false = group := by
      rw [length]
      exact List.append_nil group
    have split : bits.take (8 * (count + 1)) = group ++ (bits.drop 8).take (8 * count) := by
      rw [Nat.mul_succ, Nat.add_comm, List.take_add]
    rw [split, ← ih rest]
    show bitsOf 8 (UInt8.ofNat (valueOf (group ++ _))).toNat ++ _ = _
    rw [full, octet, first]
    rfl

/-- **Octets and spare bits are the bits they were cut from.** -/
theorem ofBytes_octets (bits : List Bool) : ofBytes (octets bits).1 ++ (octets bits).2 = bits := by
  have whole : 8 * (bits.length / 8) ≤ bits.length := Nat.mul_div_le _ _
  unfold octets
  dsimp only
  rw [ofBytes_digits whole, List.take_append_drop]

/-! ## Groups -/

theorem length_flatMap_bitsOf (width : Nat) (values : List Nat) :
    (values.flatMap (bitsOf width)).length = width * values.length := by
  induction values with
  | nil => rfl
  | cons n values ih =>
    rw [List.flatMap_cons, List.length_append, length_bitsOf, ih, List.length_cons, Nat.mul_succ,
      Nat.add_comm]

theorem bitsOf_inj {n m : Nat} (hn : n < 2 ^ width) (hm : m < 2 ^ width)
    (h : bitsOf width n = bitsOf width m) : n = m := by
  have same := congrArg valueOf h
  rwa [valueOf_bitsOf, valueOf_bitsOf, Nat.mod_eq_of_lt hn, Nat.mod_eq_of_lt hm] at same

/-- Groups of one width are determined by the bits they make. -/
theorem flatMap_bitsOf_inj {xs ys : List Nat} (length : xs.length = ys.length)
    (hx : ∀ n ∈ xs, n < 2 ^ width) (hy : ∀ n ∈ ys, n < 2 ^ width)
    (h : xs.flatMap (bitsOf width) = ys.flatMap (bitsOf width)) : xs = ys := by
  induction xs generalizing ys with
  | nil => exact (List.eq_nil_of_length_eq_zero length.symm).symm
  | cons x xs ih =>
    cases ys with
    | nil => cases length
    | cons y ys =>
      rw [List.flatMap_cons, List.flatMap_cons] at h
      have fronts : (bitsOf width x).length = (bitsOf width y).length := by
        rw [length_bitsOf, length_bitsOf]
      obtain ⟨front, back⟩ := List.append_inj h fronts
      have head : x = y := bitsOf_inj (hx x List.mem_cons_self) (hy y List.mem_cons_self) front
      have tail : xs = ys := ih (Nat.succ.inj length)
        (fun n hn => hx n (List.mem_cons_of_mem _ hn)) (fun n hn => hy n (List.mem_cons_of_mem _ hn))
        back
      rw [head, tail]

/-- As many groups hold some bits as the bits and less than one more group make up. -/
theorem groups_eq {length count : Nat} (enough : length ≤ width * count)
    (few : width * count - length < width) : groups width length = count := by
  have pos : 0 < width := by omega
  unfold groups
  refine Nat.div_eq_of_lt_le ?_ ?_
  · rw [Nat.mul_comm]
    omega
  · rw [Nat.succ_mul, Nat.mul_comm]
    omega

end Bits

namespace Text.Alphabet

variable {alphabet : Alphabet} {text : List Char} {bytes : Bytes}

theorem symbol_of_digit? {c : Char} {n : Nat} (h : alphabet.digit? c = some n) :
    n < alphabet.symbols.length ∧ alphabet.symbol n = c := by
  unfold digit? at h
  obtain ⟨short, found, -⟩ := List.findIdx?_eq_some_iff_getElem.1 h
  refine ⟨short, ?_⟩
  unfold symbol
  rw [List.getD_eq_getElem?_getD, List.getElem?_eq_getElem short]
  exact beq_iff_eq.1 found

theorem exists_digit?_of_mem {c : Char} (h : c ∈ alphabet.symbols) :
    ∃ n, alphabet.digit? c = some n :=
  Option.isSome_iff_exists.1 (List.isSome_idxOf?.2 h)

/-- What is read are the numbers whose symbols the text consists of. -/
theorem eq_map_symbol_of_mapM {values : List Nat} (h : text.mapM alphabet.digit? = some values) :
    (∀ n ∈ values, n < alphabet.symbols.length) ∧ text = values.map alphabet.symbol := by
  induction text generalizing values with
  | nil =>
    cases h
    exact ⟨by simp, rfl⟩
  | cons c text ih =>
    obtain ⟨n, rest, digit, digits, rfl⟩ := mapM_digit?_cons.1 h
    obtain ⟨short, symbol⟩ := symbol_of_digit? digit
    obtain ⟨below, spelled⟩ := ih digits
    refine ⟨List.forall_mem_cons.2 ⟨short, below⟩, ?_⟩
    rw [List.map_cons, symbol, ← spelled]

/-- What is read was cut from the numbers of the symbols, with less than one symbol of zeros left over. -/
theorem exists_values_of_read? (h : alphabet.read? text = some bytes) :
    ∃ values spare, text.mapM alphabet.digit? = some values
      ∧ Bits.octets (values.flatMap (Bits.bitsOf alphabet.width)) = (bytes, spare)
      ∧ spare.length < alphabet.width ∧ ∀ b ∈ spare, b = false := by
  unfold read? at h
  obtain ⟨values, digits, h⟩ := Option.bind_eq_some_iff.1 h
  cases cut : Bits.octets (values.flatMap (Bits.bitsOf alphabet.width)) with
  | mk found spare =>
    rw [cut] at h
    dsimp only at h
    obtain ⟨_, accepted, h⟩ := Option.bind_eq_some_iff.1 h
    obtain ⟨short, zeros⟩ := Bool.and_eq_true_iff.1 ((Option.guard_eq_some' _).1 accepted)
    cases h
    refine ⟨values, spare, digits, cut, of_decide_eq_true short, fun b hb => ?_⟩
    simpa using List.all_eq_true.1 zeros b hb

/-- **What is read is the spelling of the octets it is read as.** -/
theorem eq_spell_of_read? (few : alphabet.symbols.length ≤ 2 ^ alphabet.width)
    (h : alphabet.read? text = some bytes) : text = alphabet.spell bytes := by
  obtain ⟨values, spare, digits, cut, short, zeros⟩ := exists_values_of_read? h
  obtain ⟨below, spelled⟩ := eq_map_symbol_of_mapM digits
  have whole : Bits.ofBytes bytes ++ spare = values.flatMap (Bits.bitsOf alphabet.width) := by
    have back := Bits.ofBytes_octets (values.flatMap (Bits.bitsOf alphabet.width))
    rwa [cut] at back
  have total : (Bits.ofBytes bytes).length + spare.length = alphabet.width * values.length := by
    rw [← List.length_append, whole, Bits.length_flatMap_bitsOf]
  have enough : (Bits.ofBytes bytes).length ≤ alphabet.width * values.length := by omega
  have room : alphabet.width * values.length - (Bits.ofBytes bytes).length = spare.length := by omega
  have count : Bits.groups alphabet.width (Bits.ofBytes bytes).length = values.length :=
    Bits.groups_eq enough (by omega)
  -- The groups of the spelling make the same bits as the numbers that were read.
  have filled := Bits.flatMap_bitsOf_digits enough
  rw [room, ← List.eq_replicate_of_mem zeros, whole] at filled
  have numbers := Bits.flatMap_bitsOf_inj (Bits.length_digits _ _ _) (fun _ => Bits.digits_lt _)
    (fun n hn => Nat.lt_of_lt_of_le (below n hn) few) filled
  unfold spell
  dsimp only
  rw [count, numbers]
  exact spelled

/-- **A text is read as some octets exactly when it is their spelling.** -/
theorem Faithful.read?_eq_some_iff (h : alphabet.Faithful) (pos : 0 < alphabet.width)
    (small : alphabet.width ≤ 8) (few : alphabet.symbols.length ≤ 2 ^ alphabet.width) :
    alphabet.read? text = some bytes ↔ text = alphabet.spell bytes := by
  constructor
  · exact eq_spell_of_read? few
  · rintro rfl
    exact h.read?_spell pos small bytes

end Text.Alphabet

namespace Text.Base32

/-! ## Base32 -/

theorem faithful : alphabet.Faithful := by
  have found : ∀ n < 32, alphabet.digit? (alphabet.symbol n) = some n := by decide +kernel
  exact found

theorem read?_eq_some_iff {text : List Char} {bytes : Bytes} :
    alphabet.read? text = some bytes ↔ text = alphabet.spell bytes :=
  faithful.read?_eq_some_iff (by decide) (by decide) (by decide)

theorem spell_inj {bytes bytes' : Bytes} (h : alphabet.spell bytes = alphabet.spell bytes') :
    bytes = bytes' :=
  Option.some.inj ((read?_eq_some_iff.2 rfl).symm.trans (read?_eq_some_iff.2 h))

end Text.Base32

namespace Text.Base64

/-! ## Base64 -/

/-- **A text is read as some octets exactly when it is their Base64**, padding included. -/
theorem decode?_eq_some_iff {text : String} {bytes : Bytes} :
    decode? text = some bytes ↔ text = encode bytes := by
  constructor
  · intro h
    unfold decode? at h
    dsimp only at h
    split at h
    · next shape =>
      have spelled := Alphabet.eq_spell_of_read? (by decide) h
      rw [spelled] at shape
      rw [encode, shape, String.ofList_toList]
    · cases h
  · rintro rfl
    exact decode?_encode bytes

theorem decodeOctets_eq_ok_iff {n : Nat} {text : String} {x : Octets n} :
    decodeOctets n text = .ok x ↔ text = encode x.bytes := by
  constructor
  · exact fun h => decode?_eq_some_iff.1 (decode?_of_decodeOctets h)
  · rintro rfl
    exact decodeOctets_encode x

end Text.Base64

end DeviceAuth
