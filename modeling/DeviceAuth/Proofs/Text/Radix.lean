import Mathlib.Algebra.Group.Nat.Defs
import DeviceAuth.Text.Base64
import DeviceAuth.Text.Decoded

/-!
# A spelling is read back

`Alphabet.read?_spell` follows the octets through the three representations between which a spelling
passes. As bits they are cut into groups; the groups, put together again, are the bits with some
zeros behind them, fewer than one group (`flatMap_bitsOf_digits`); and bits are cut into octets by
the same rule, so that the first whole ones are the octets that were there and the zeros are what is
left over.

What an alphabet has to do with it is one property, `Alphabet.Faithful`, decided by looking its
symbols up.
-/

set_option autoImplicit false

namespace DeviceAuth

namespace Bits

/-! ## Numbers and bits -/

theorem foldl_valueOf (bits : List Bool) (n : Nat) :
    bits.foldl (fun n b => 2 * n + b.toNat) n = n * 2 ^ bits.length + valueOf bits := by
  unfold valueOf
  induction bits generalizing n with
  | nil => simp
  | cons b bits ih =>
    rw [List.foldl_cons, ih, List.foldl_cons, ih (2 * 0 + b.toNat), List.length_cons, Nat.pow_succ]
    grind

theorem valueOf_cons (b : Bool) (bits : List Bool) :
    valueOf (b :: bits) = b.toNat * 2 ^ bits.length + valueOf bits := by
  have h := foldl_valueOf bits b.toNat
  show bits.foldl (fun n b => 2 * n + b.toNat) (2 * 0 + b.toNat) = _
  rw [Nat.mul_zero, Nat.zero_add, h]

theorem valueOf_lt (bits : List Bool) : valueOf bits < 2 ^ bits.length := by
  induction bits with
  | nil => simp [valueOf]
  | cons b bits ih =>
    rw [valueOf_cons, List.length_cons, Nat.pow_succ]
    cases b <;> simp <;> omega

theorem valueOf_bitsOf (width n : Nat) : valueOf (bitsOf width n) = n % 2 ^ width := by
  induction width with
  | zero => simp [bitsOf, valueOf, Nat.mod_one]
  | succ width ih =>
    rw [bitsOf, valueOf_cons, ih, length_bitsOf, Nat.toNat_testBit, Nat.mod_pow_succ]
    grind

theorem bitsOf_congr {width n m : Nat} (h : ∀ i < width, n.testBit i = m.testBit i) :
    bitsOf width n = bitsOf width m := by
  induction width with
  | zero => rfl
  | succ width ih =>
    rw [bitsOf, bitsOf, h width (by omega), ih fun i hi => h i (by omega)]

theorem bitsOf_valueOf (bits : List Bool) : bitsOf bits.length (valueOf bits) = bits := by
  induction bits with
  | nil => rfl
  | cons b bits ih =>
    have lt := valueOf_lt bits
    have sum : valueOf (b :: bits) = 2 ^ bits.length * b.toNat + valueOf bits := by
      rw [valueOf_cons, Nat.mul_comm]
    have high : (valueOf (b :: bits)).testBit bits.length = b := by
      rw [sum, Nat.testBit_two_pow_mul_add _ lt]
      cases b <;> simp
    have low : bitsOf bits.length (valueOf (b :: bits)) = bitsOf bits.length (valueOf bits) := by
      apply bitsOf_congr
      intro i hi
      rw [sum, Nat.testBit_two_pow_mul_add _ lt, if_pos hi]
    rw [List.length_cons, bitsOf, high, low, ih]

/-! ## Groups -/

theorem digits_lt {width count : Nat} {bits : List Bool} :
    ∀ d ∈ digits width count bits, d < 2 ^ width := by
  induction count generalizing bits with
  | zero => simp [digits]
  | succ count ih =>
    intro d hd
    rcases List.mem_cons.1 hd with rfl | hd
    · refine Nat.lt_of_lt_of_eq (valueOf_lt _) ?_
      congr 1
      simp only [List.length_append, List.length_replicate, List.length_take]
      omega
    · exact ih d hd

/-- The groups, put together again, are the bits and the zeros that filled the last group up. -/
theorem flatMap_bitsOf_digits {width count : Nat} {bits : List Bool}
    (h : bits.length ≤ width * count) :
    (digits width count bits).flatMap (bitsOf width)
      = bits ++ List.replicate (width * count - bits.length) false := by
  induction count generalizing bits with
  | zero =>
    have : bits = [] := List.eq_nil_of_length_eq_zero (by simpa using h)
    simp [this, digits]
  | succ count ih =>
    let group := bits.take width ++ List.replicate (width - (bits.take width).length) false
    have length : group.length = width := by
      simp only [group, List.length_append, List.length_replicate, List.length_take]
      omega
    have first : bitsOf width (valueOf group) = group := by
      have h := bitsOf_valueOf group
      rwa [length] at h
    have fewer : (bits.drop width).length ≤ width * count := by
      rw [List.length_drop]
      grind
    have rest := ih fewer
    show bitsOf width (valueOf group) ++ (digits width count (bits.drop width)).flatMap (bitsOf width)
      = _
    rw [first, rest]
    by_cases short : bits.length ≤ width
    · have all : bits.take width = bits := List.take_of_length_le short
      have none : bits.drop width = [] := List.drop_eq_nil_of_le short
      simp only [group, all, none, List.length_nil, List.nil_append, List.append_assoc,
        List.replicate_append_replicate]
      congr 2
      grind
    · have full : width - (bits.take width).length = 0 := by simp; omega
      simp only [group, full, List.replicate_zero, List.append_nil]
      rw [← List.append_assoc, List.take_append_drop, List.length_drop]
      congr 2
      grind

/-- Cutting into octets is undone by writing the octets out, whatever bits follow. -/
theorem digits_ofBytes (bytes : Bytes) (spare : List Bool) :
    digits 8 bytes.length (ofBytes bytes ++ spare) = bytes.map UInt8.toNat := by
  induction bytes with
  | nil => rfl
  | cons b bytes ih =>
    have shape : ofBytes (b :: bytes) ++ spare = bitsOf 8 b.toNat ++ (ofBytes bytes ++ spare) := by
      simp [ofBytes]
    have front : (ofBytes (b :: bytes) ++ spare).take 8 = bitsOf 8 b.toNat := by
      rw [shape]
      simp
    have back : (ofBytes (b :: bytes) ++ spare).drop 8 = ofBytes bytes ++ spare := by
      rw [shape]
      simp
    have value : valueOf (bitsOf 8 b.toNat) = b.toNat := by
      rw [valueOf_bitsOf]
      exact Nat.mod_eq_of_lt b.toNat_lt
    rw [List.length_cons, digits, front, back, ih]
    simp [value]

theorem octets_ofBytes {bytes : Bytes} {spare : List Bool} (h : spare.length < 8) :
    octets (ofBytes bytes ++ spare) = (bytes, spare) := by
  have count : (ofBytes bytes ++ spare).length / 8 = bytes.length := by
    rw [List.length_append, length_ofBytes]
    omega
  unfold octets
  simp only [count, digits_ofBytes]
  simp [Function.comp_def]

end Bits

namespace Text

/-! ## Alphabets -/

/-- Every symbol is read as the number it was written for. -/
def Alphabet.Faithful (alphabet : Alphabet) : Prop :=
  ∀ n < 2 ^ alphabet.width, alphabet.digit? (alphabet.symbol n) = some n

theorem Alphabet.Faithful.mapM_symbol {alphabet : Alphabet} (h : alphabet.Faithful)
    {values : List Nat} (hv : ∀ n ∈ values, n < 2 ^ alphabet.width) :
    (values.map alphabet.symbol).mapM alphabet.digit? = some values := by
  induction values with
  | nil => rfl
  | cons n values ih =>
    have tail := ih fun m hm => hv m (List.mem_cons_of_mem _ hm)
    rw [List.map_cons, List.mapM_cons, h n (hv n List.mem_cons_self), tail]
    rfl

theorem Alphabet.mem_of_digit? {alphabet : Alphabet} {c : Char} {n : Nat}
    (h : alphabet.digit? c = some n) : c ∈ alphabet.symbols :=
  List.isSome_idxOf?.1 (Option.isSome_iff_exists.2 ⟨n, h⟩)

theorem Alphabet.mapM_digit?_cons {alphabet : Alphabet} {c : Char} {text : List Char}
    {values : List Nat} :
    (c :: text).mapM alphabet.digit? = some values ↔
      ∃ n rest, alphabet.digit? c = some n ∧ text.mapM alphabet.digit? = some rest
        ∧ values = n :: rest := by
  rw [List.mapM_cons]
  constructor
  · intro h
    obtain ⟨n, digit, h⟩ := Option.bind_eq_some_iff.1 h
    obtain ⟨rest, digits, h⟩ := Option.bind_eq_some_iff.1 h
    exact ⟨n, rest, digit, digits, (Option.some.inj h).symm⟩
  · rintro ⟨n, rest, digit, digits, rfl⟩
    rw [digit, digits]
    rfl

/-- What is read consists of symbols. -/
theorem Alphabet.mem_symbols_of_mapM {alphabet : Alphabet} {text : List Char} {values : List Nat}
    (h : text.mapM alphabet.digit? = some values) : ∀ c ∈ text, c ∈ alphabet.symbols := by
  induction text generalizing values with
  | nil => simp
  | cons c text ih =>
    obtain ⟨n, rest, digit, digits, -⟩ := mapM_digit?_cons.1 h
    exact List.forall_mem_cons.2 ⟨mem_of_digit? digit, ih digits⟩

/-- **A spelling is read back as the octets it spells.** -/
theorem Alphabet.Faithful.read?_spell {alphabet : Alphabet} (h : alphabet.Faithful)
    (pos : 0 < alphabet.width) (small : alphabet.width ≤ 8) (bytes : Bytes) :
    alphabet.read? (alphabet.spell bytes) = some bytes := by
  let bits := Bits.ofBytes bytes
  let count := Bits.groups alphabet.width bits.length
  let spare := List.replicate (alphabet.width * count - bits.length) false
  have enough : bits.length ≤ alphabet.width * count := by
    show _ ≤ alphabet.width * ((bits.length + (alphabet.width - 1)) / alphabet.width)
    have := Nat.div_add_mod (bits.length + (alphabet.width - 1)) alphabet.width
    have := Nat.mod_lt (bits.length + (alphabet.width - 1)) pos
    omega
  have few : spare.length < alphabet.width := by
    have : alphabet.width * count ≤ bits.length + (alphabet.width - 1) := Nat.mul_div_le _ _
    simp only [spare, List.length_replicate]
    omega
  have below : ∀ d ∈ Bits.digits alphabet.width count bits, d < 2 ^ alphabet.width :=
    Bits.digits_lt
  have values := h.mapM_symbol below
  have zero : spare.all (! ·) = true := by simp [spare]
  have whole : (Bits.digits alphabet.width count bits).flatMap (Bits.bitsOf alphabet.width)
      = bits ++ spare := Bits.flatMap_bitsOf_digits enough
  have octets : Bits.octets (bits ++ spare) = (bytes, spare) :=
    Bits.octets_ofBytes (by omega)
  unfold read?
  show ((List.map alphabet.symbol (Bits.digits alphabet.width count bits)).mapM alphabet.digit?).bind _
    = _
  have accepted : (guard (spare.length < alphabet.width && spare.all (! ·)) : Option Unit) = some () :=
    if_pos (by rw [zero, Bool.and_true, decide_eq_true few])
  rw [values, Option.bind_some, whole, octets]
  show (guard _ : Option Unit).bind _ = _
  rw [accepted, Option.bind_some]
  rfl

namespace Base64

/-! ## Base64 -/

theorem faithful : alphabet.Faithful := by
  have found : ∀ n < 64, alphabet.digit? (alphabet.symbol n) = some n := by decide +kernel
  exact found

theorem symbol_ne_padding {n : Nat} (h : n < 64) : alphabet.symbol n ≠ '=' := by
  have apart : ∀ n < 64, alphabet.symbol n ≠ '=' := by decide +kernel
  exact apart n h

theorem takeWhile_padded {symbols : List Char} (h : ∀ c ∈ symbols, c ≠ '=') :
    (padded symbols).takeWhile (· != '=') = symbols := by
  unfold padded
  rw [List.takeWhile_append_of_pos (by simpa using h)]
  cases (4 - symbols.length % 4) % 4 <;> simp [List.replicate_succ]

/-- **What is written is read back.** -/
theorem decode?_encode (bytes : Bytes) : decode? (encode bytes) = some bytes := by
  have clean : ∀ c ∈ alphabet.spell bytes, c ≠ '=' := by
    intro c hc
    obtain ⟨n, hn, rfl⟩ := List.mem_map.1 hc
    exact symbol_ne_padding (Bits.digits_lt n hn)
  have symbols := takeWhile_padded clean
  unfold decode? encode
  simp only [String.toList_ofList, symbols, if_true]
  exact faithful.read?_spell (by decide) (by decide) bytes

theorem encode_inj {bytes bytes' : Bytes} : encode bytes = encode bytes' ↔ bytes = bytes' := by
  constructor
  · intro h
    have read := decode?_encode bytes
    rw [h, decode?_encode] at read
    exact (Option.some.inj read).symm
  · rintro rfl
    rfl

/-- A text that is read consists of symbols and padding. -/
theorem mem_of_decode? {text : String} {bytes : Bytes} (h : decode? text = some bytes) {c : Char}
    (hc : c ∈ text.toList) : c ∈ alphabet.symbols ∨ c = '=' := by
  unfold decode? at h
  dsimp only at h
  split at h
  · next shape =>
    obtain ⟨values, digits, -⟩ := Option.bind_eq_some_iff.1 h
    rw [← shape] at hc
    rcases List.mem_append.1 hc with symbol | padding
    · exact .inl (Alphabet.mem_symbols_of_mapM digits c symbol)
    · exact .inr (List.eq_of_mem_replicate padding)
  · cases h

@[simp] theorem decode_encode (bytes : Bytes) : decode (encode bytes) = .ok bytes := by
  unfold decode
  rw [decode?_encode]

@[simp] theorem decodeOctets_encode {n : Nat} (x : Octets n) :
    decodeOctets n (encode x.bytes) = .ok x := by
  unfold decodeOctets
  simp

theorem decode?_of_decodeOctets {n : Nat} {text : String} {x : Octets n}
    (h : decodeOctets n text = .ok x) : decode? text = some x.bytes := by
  unfold decodeOctets decode at h
  cases read : decode? text with
  | none =>
    rw [read] at h
    cases h
  | some bytes =>
    rw [read] at h
    dsimp only at h
    split at h
    · next octets found =>
      cases h
      rw [Octets.ofBytes?_eq_some_iff.1 found]
    · cases h

end Base64

end Text

end DeviceAuth
