import DeviceAuth.Proofs.Text.Canonical

/-!
# The form of a Base64 text

`Base64.Canonical` says which texts are Base64 without a word about octets: groups of four symbols, and
at the end perhaps one that `=` fills up, in which the bits that belong to no octet are zeros. These are
the texts that are read, and so the ones that are written (`Base64.canonical_iff`).

A group of four is three octets exactly: it takes no bits from the rest of a text and leaves none to it.
What is left over is therefore a matter of the last group alone, which has four ways to look.
-/

set_option autoImplicit false

namespace DeviceAuth

namespace Bits

/-! ## What is left over -/

theorem octets_append_snd {front : List Bool} {count : Nat} (h : front.length = 8 * count)
    (bits : List Bool) : (octets (front ++ bits)).2 = (octets bits).2 := by
  have whole : 8 * ((front ++ bits).length / 8) = front.length + 8 * (bits.length / 8) := by
    rw [List.length_append]
    omega
  unfold octets
  dsimp only
  rw [whole, List.drop_length_add_append]

theorem octets_snd_of_short {bits : List Bool} (h : bits.length < 8) : (octets bits).2 = bits := by
  unfold octets
  dsimp only
  rw [Nat.div_eq_of_lt h, Nat.mul_zero, List.drop_zero]

/-- Bits are all zeros exactly when they write the number zero. -/
theorem forall_eq_false_iff {bits : List Bool} : (∀ b ∈ bits, b = false) ↔ valueOf bits = 0 := by
  induction bits with
  | nil => simp [valueOf]
  | cons b bits ih =>
    rw [List.forall_mem_cons, ih, valueOf_cons]
    cases b <;> simp

theorem forall_bitsOf_eq_false_iff {width n : Nat} :
    (∀ b ∈ bitsOf width n, b = false) ↔ n % 2 ^ width = 0 := by
  rw [forall_eq_false_iff, valueOf_bitsOf]

end Bits

namespace Text

namespace Alphabet

variable {alphabet : Alphabet} {text : List Char} {values : List Nat}

/-! ## Numbers that fit -/

/-- The bits that the octets in some numbers leave over. -/
def spare (alphabet : Alphabet) (values : List Nat) : List Bool :=
  (Bits.octets (values.flatMap (Bits.bitsOf alphabet.width))).2

/-- Less than one symbol is left over of some numbers, and nothing but zeros. -/
def Fits (alphabet : Alphabet) (values : List Nat) : Prop :=
  (alphabet.spare values).length < alphabet.width ∧ ∀ b ∈ alphabet.spare values, b = false

/-- Once the octets are cut off, the last bits are left over. -/
theorem spare_eq (front : List Bool) {back : List Bool} (count : Nat)
    (cut : values.flatMap (Bits.bitsOf alphabet.width) = front ++ back)
    (octets : front.length = 8 * count) (short : back.length < 8) : alphabet.spare values = back := by
  rw [spare, cut, Bits.octets_append_snd octets, Bits.octets_snd_of_short short]

/-- A text is read as some octets if it consists of symbols, and their numbers fit. -/
theorem exists_read?_iff :
    (∃ bytes, alphabet.read? text = some bytes) ↔
      ∃ values, text.mapM alphabet.digit? = some values ∧ alphabet.Fits values := by
  constructor
  · rintro ⟨bytes, h⟩
    obtain ⟨values, left, digits, cut, short, zeros⟩ := exists_values_of_read? h
    have own : alphabet.spare values = left := congrArg Prod.snd cut
    refine ⟨values, digits, ?_⟩
    rw [Fits, own]
    exact ⟨short, zeros⟩
  · rintro ⟨values, digits, short, zeros⟩
    have none : (alphabet.spare values).all (! ·) = true := by simpa using zeros
    have accepted : (guard ((alphabet.spare values).length < alphabet.width
        && (alphabet.spare values).all (! ·)) : Option Unit) = some () :=
      if_pos (by rw [none, Bool.and_true, decide_eq_true short])
    refine ⟨(Bits.octets (values.flatMap (Bits.bitsOf alphabet.width))).1, ?_⟩
    unfold read?
    exact Option.bind_eq_some_iff.2
      ⟨values, digits, Option.bind_eq_some_iff.2 ⟨(), accepted, rfl⟩⟩

end Alphabet

namespace Base64

variable {n m k l : Nat} {values : List Nat}

/-! ## Groups -/

/-- Six bits are no octet, and too many to be left over. -/
theorem not_fits_one : ¬ alphabet.Fits [n] := by
  rintro ⟨short, -⟩
  have spare : alphabet.spare [n] = Bits.bitsOf 6 n :=
    Alphabet.spare_eq [] 0 (List.append_nil _) rfl (by simp)
  rw [spare, Bits.length_bitsOf] at short
  exact absurd short (by decide)

theorem fits_two : alphabet.Fits [n, m] ↔ m % 16 = 0 := by
  have spare : alphabet.spare [n, m] = Bits.bitsOf 4 m := by
    refine Alphabet.spare_eq (Bits.bitsOf 6 n ++ [m.testBit 5, m.testBit 4]) 1 ?_ (by simp) (by simp)
    simp [alphabet, Bits.bitsOf]
  rw [Alphabet.Fits, spare, Bits.forall_bitsOf_eq_false_iff, Bits.length_bitsOf]
  exact and_iff_right (by decide)

theorem fits_three : alphabet.Fits [n, m, k] ↔ k % 4 = 0 := by
  have spare : alphabet.spare [n, m, k] = Bits.bitsOf 2 k := by
    refine Alphabet.spare_eq (Bits.bitsOf 6 n ++ Bits.bitsOf 6 m
      ++ [k.testBit 5, k.testBit 4, k.testBit 3, k.testBit 2]) 2 ?_ (by simp) (by simp)
    simp [alphabet, Bits.bitsOf]
  rw [Alphabet.Fits, spare, Bits.forall_bitsOf_eq_false_iff, Bits.length_bitsOf]
  exact and_iff_right (by decide)

/-- A whole group leaves everything to the rest. -/
theorem fits_group : alphabet.Fits (n :: m :: k :: l :: values) ↔ alphabet.Fits values := by
  have spare : alphabet.spare (n :: m :: k :: l :: values) = alphabet.spare values := by
    have octets : ([n, m, k, l].flatMap (Bits.bitsOf 6)).length = 8 * 3 := by simp
    have front := Bits.octets_append_snd octets (values.flatMap (Bits.bitsOf 6))
    rwa [← List.flatMap_append] at front
  rw [Alphabet.Fits, spare]
  rfl

theorem padded_group (a b c d : Char) (symbols : List Char) :
    padded (a :: b :: c :: d :: symbols) = a :: b :: c :: d :: padded symbols := by
  have same : (symbols.length + 4) % 4 = symbols.length % 4 := Nat.add_mod_right _ _
  simp [padded, same]

/-! ## The form -/

/-- The texts of Base64. A last group that is filled up carries one octet or two, and what its last
symbol has beyond them is zero. -/
inductive Canonical : List Char → Prop
  | nil : Canonical []
  | group {a b c d : Char} {rest : List Char} (ha : a ∈ alphabet.symbols) (hb : b ∈ alphabet.symbols)
      (hc : c ∈ alphabet.symbols) (hd : d ∈ alphabet.symbols) (hrest : Canonical rest) :
      Canonical (a :: b :: c :: d :: rest)
  | one {a b : Char} {n : Nat} (ha : a ∈ alphabet.symbols) (hb : alphabet.digit? b = some n)
      (zeros : n % 16 = 0) : Canonical [a, b, '=', '=']
  | two {a b c : Char} {n : Nat} (ha : a ∈ alphabet.symbols) (hb : b ∈ alphabet.symbols)
      (hc : alphabet.digit? c = some n) (zeros : n % 4 = 0) : Canonical [a, b, c, '=']

/-- Symbols that are read make a Base64 text. -/
theorem canonical_padded : ∀ (symbols : List Char) {values : List Nat},
    symbols.mapM alphabet.digit? = some values → alphabet.Fits values → Canonical (padded symbols)
  | [], _, _, _ => .nil
  | [a], _, digits, fits => by
    simp only [Alphabet.mapM_digit?_cons] at digits
    obtain ⟨n, _, -, none, rfl⟩ := digits
    cases none
    exact absurd fits not_fits_one
  | [a, b], _, digits, fits => by
    simp only [Alphabet.mapM_digit?_cons] at digits
    obtain ⟨n, _, ha, ⟨m, _, hb, none, rfl⟩, rfl⟩ := digits
    cases none
    exact .one (Alphabet.mem_of_digit? ha) hb (fits_two.1 fits)
  | [a, b, c], _, digits, fits => by
    simp only [Alphabet.mapM_digit?_cons] at digits
    obtain ⟨n, _, ha, ⟨m, _, hb, ⟨k, _, hc, none, rfl⟩, rfl⟩, rfl⟩ := digits
    cases none
    exact .two (Alphabet.mem_of_digit? ha) (Alphabet.mem_of_digit? hb) hc (fits_three.1 fits)
  | a :: b :: c :: d :: symbols, _, digits, fits => by
    simp only [Alphabet.mapM_digit?_cons] at digits
    obtain ⟨n, _, ha, ⟨m, _, hb, ⟨k, _, hc, ⟨l, _, hd, rest, rfl⟩, rfl⟩, rfl⟩, rfl⟩ := digits
    rw [padded_group]
    exact .group (Alphabet.mem_of_digit? ha) (Alphabet.mem_of_digit? hb) (Alphabet.mem_of_digit? hc)
      (Alphabet.mem_of_digit? hd) (canonical_padded symbols rest (fits_group.1 fits))

/-- A Base64 text is made of symbols that are read. -/
theorem Canonical.exists_symbols {text : List Char} (h : Canonical text) :
    ∃ symbols values, text = padded symbols ∧ symbols.mapM alphabet.digit? = some values
      ∧ alphabet.Fits values := by
  induction h with
  | nil => exact ⟨[], [], rfl, rfl, by decide, by simp [Alphabet.spare, Bits.octets]⟩
  | @group a b c d rest ha hb hc hd _ ih =>
    obtain ⟨symbols, values, rfl, digits, fits⟩ := ih
    obtain ⟨n, ha⟩ := Alphabet.exists_digit?_of_mem ha
    obtain ⟨m, hb⟩ := Alphabet.exists_digit?_of_mem hb
    obtain ⟨k, hc⟩ := Alphabet.exists_digit?_of_mem hc
    obtain ⟨l, hd⟩ := Alphabet.exists_digit?_of_mem hd
    refine ⟨a :: b :: c :: d :: symbols, n :: m :: k :: l :: values,
      (padded_group a b c d symbols).symm, ?_, fits_group.2 fits⟩
    simp [ha, hb, hc, hd, digits]
  | @one a b m ha hb zeros =>
    obtain ⟨n, ha⟩ := Alphabet.exists_digit?_of_mem ha
    exact ⟨[a, b], [n, m], rfl, by simp [ha, hb], fits_two.2 zeros⟩
  | @two a b c k ha hb hc zeros =>
    obtain ⟨n, ha⟩ := Alphabet.exists_digit?_of_mem ha
    obtain ⟨m, hb⟩ := Alphabet.exists_digit?_of_mem hb
    exact ⟨[a, b, c], [n, m, k], rfl, by simp [ha, hb, hc], fits_three.2 zeros⟩

/-- **A text is the Base64 of some octets exactly when it has the form.** -/
theorem canonical_iff {text : String} : Canonical text.toList ↔ ∃ bytes, text = encode bytes := by
  constructor
  · intro form
    obtain ⟨symbols, values, shape, digits, fits⟩ := form.exists_symbols
    obtain ⟨bytes, read⟩ := Alphabet.exists_read?_iff.2 ⟨values, digits, fits⟩
    refine ⟨bytes, ?_⟩
    rw [encode, ← Alphabet.eq_spell_of_read? (by decide) read, ← shape, String.ofList_toList]
  · rintro ⟨bytes, rfl⟩
    obtain ⟨values, digits, fits⟩ :=
      Alphabet.exists_read?_iff.1 ⟨bytes, faithful.read?_spell (by decide) (by decide) bytes⟩
    rw [encode, String.toList_ofList]
    exact canonical_padded _ digits fits

theorem isSome_decode?_iff {text : String} :
    (decode? text).isSome = true ↔ Canonical text.toList := by
  rw [Option.isSome_iff_exists, canonical_iff]
  exact exists_congr fun _ => decode?_eq_some_iff

/-- Whether a text has the form is found by decoding it. -/
instance (text : List Char) : Decidable (Canonical text) :=
  decidable_of_iff ((decode? (.ofList text)).isSome = true)
    (by rw [isSome_decode?_iff, String.toList_ofList])

theorem decode_eq_ok_iff {text : String} {bytes : Bytes} :
    decode text = .ok bytes ↔ text = encode bytes := by
  rw [← decode?_eq_some_iff, decode]
  cases decode? text <;> simp

end Base64

end Text

end DeviceAuth
