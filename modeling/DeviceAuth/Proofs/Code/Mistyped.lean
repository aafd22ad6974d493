import Mathlib.Data.Nat.Bitwise
import DeviceAuth.Proofs.Checksum
import DeviceAuth.Proofs.Code.Grammar

/-!
# Mistyped codes

A wrong symbol in a code is noticed, and so are two neighbours in each other's place. Every code is
concerned, and none is looked at: the twenty symbols of a code write a number of a hundred bits, what
makes a number that of a code (`IsCodeword`) survives exclusive or, and the exclusive or of two texts
that differ in one place is the difference alone, moved to its place (`number_xor_number`). So it is
enough that no difference is the number of a code by itself, and of differences there are few: a wrong
symbol is one of thirty-one in twenty places, a swap puts the same one of thirty-one into two places
next to each other. These are computed.

The argument by lengths of error bursts would not do. Octets enter the checksum from their lowest bit on,
and symbols are cut from their highest, so that the bits of two neighbours may lie in three octets and
far apart in the order of the checksum.
-/

set_option autoImplicit false

namespace DeviceAuth

namespace Bits

/-! ## Bits one after the other -/

theorem valueOf_append (front back : List Bool) :
    valueOf (front ++ back) = valueOf front * 2 ^ back.length + valueOf back := by
  rw [valueOf, List.foldl_append, foldl_valueOf]
  rfl

theorem valueOf_replicate_false (n : Nat) : valueOf (List.replicate n false) = 0 := by
  induction n with
  | zero => rfl
  | succ n ih => rw [List.replicate_succ, valueOf_cons, ih, Bool.toNat_false, Nat.zero_mul]

theorem valueOf_ofBytes (bytes : Bytes) : valueOf (ofBytes bytes) = Bytes.ofBigEndian bytes := by
  induction bytes with
  | nil => rfl
  | cons b bytes ih =>
    have octet : b.toNat % 2 ^ 8 = b.toNat := Nat.mod_eq_of_lt b.toNat_lt
    have own : Bytes.ofBigEndian [b] = b.toNat := by
      show b.toNat + 256 * 0 = b.toNat
      omega
    rw [ofBytes, List.flatMap_cons, ← ofBytes, valueOf_append, valueOf_bitsOf, octet, ih,
      length_ofBytes, Nat.pow_mul, ← List.singleton_append, Bytes.ofBigEndian_append, own]

end Bits

namespace Code

open Text

variable {text : String} {random : Octets 10} {c c' : Char}

/-! ## The number of some symbols -/

/-- The number a symbol stands for. -/
def value (c : Char) : Nat := (Base32.alphabet.digit? c).getD 0

/-- The number some symbols write. -/
def number (symbols : List Char) : Nat := symbols.foldl (fun n c => n * 2 ^ 5 + value c) 0

theorem value_symbol {n : Nat} (h : n < 2 ^ 5) : value (Base32.alphabet.symbol n) = n := by
  rw [value, Base32.faithful n h, Option.getD_some]

theorem value_lt (c : Char) : value c < 2 ^ 5 := by
  cases digit : Base32.alphabet.digit? c with
  | none =>
    rw [value, digit]
    decide
  | some n =>
    rw [value, digit]
    exact (Alphabet.symbol_of_digit? digit).1

theorem symbol_value (h : isSymbol c = true) : Base32.alphabet.symbol (value c) = c := by
  obtain ⟨n, digit⟩ := Alphabet.exists_digit?_of_mem (isSymbol_iff_mem.1 h)
  rw [value, digit]
  exact (Alphabet.symbol_of_digit? digit).2

theorem value_inj (h : isSymbol c = true) (h' : isSymbol c' = true) (same : value c = value c') :
    c = c' := by
  rw [← symbol_value h, same, symbol_value h']

theorem number_cons (c : Char) (symbols : List Char) :
    number (c :: symbols) = value c * (2 ^ 5) ^ symbols.length + number symbols := by
  have later (start : Nat) : symbols.foldl (fun n c => n * 2 ^ 5 + value c) start
      = start * (2 ^ 5) ^ symbols.length + number symbols := by
    unfold number
    induction symbols generalizing start with
    | nil => simp
    | cons c symbols ih =>
      rw [List.foldl_cons, ih, List.foldl_cons, ih (0 * 2 ^ 5 + value c), List.length_cons,
        Nat.pow_succ]
      grind
  rw [number, List.foldl_cons, later, Nat.zero_mul, Nat.zero_add]

theorem number_append (front back : List Char) :
    number (front ++ back) = number front * (2 ^ 5) ^ back.length + number back := by
  induction front with
  | nil => simp [number]
  | cons c front ih =>
    rw [List.cons_append, number_cons, number_cons, ih, List.length_append, Nat.pow_add]
    grind

theorem number_lt (symbols : List Char) : number symbols < 2 ^ (5 * symbols.length) := by
  induction symbols with
  | nil => simp [number]
  | cons c symbols ih =>
    have head := value_lt c
    rw [Nat.pow_mul] at ih
    rw [number_cons, Nat.pow_mul, List.length_cons, Nat.pow_succ]
    calc value c * (2 ^ 5) ^ symbols.length + number symbols
        < value c * (2 ^ 5) ^ symbols.length + (2 ^ 5) ^ symbols.length := Nat.add_lt_add_left ih _
      _ = (value c + 1) * (2 ^ 5) ^ symbols.length := (Nat.succ_mul _ _).symm
      _ ≤ 2 ^ 5 * (2 ^ 5) ^ symbols.length := Nat.mul_le_mul_right _ head
      _ = (2 ^ 5) ^ symbols.length * 2 ^ 5 := Nat.mul_comm _ _

/-- **What two texts have in common cancels.** -/
theorem number_xor_number (front : List Char) {middle middle' : List Char} (back : List Char)
    (length : middle.length = middle'.length) :
    number (front ++ (middle ++ back)) ^^^ number (front ++ (middle' ++ back))
      = (number middle ^^^ number middle') * 2 ^ (5 * back.length) := by
  have small := number_lt middle
  have small' := number_lt middle'
  rw [← length] at small'
  rw [← List.append_assoc, ← List.append_assoc, number_append _ back, number_append _ back,
    number_append front, number_append front, ← length, ← Nat.pow_mul, ← Nat.pow_mul,
    Checksum.mul_add_xor_mul_add (number_lt back) (number_lt back),
    Checksum.mul_add_xor_mul_add small small']
  simp

theorem number_map_symbol {values : List Nat} (small : ∀ n ∈ values, n < 2 ^ 5) :
    number (values.map Base32.alphabet.symbol) = Bits.valueOf (values.flatMap (Bits.bitsOf 5)) := by
  induction values with
  | nil => rfl
  | cons n values ih =>
    have head : n < 2 ^ 5 := small n List.mem_cons_self
    rw [List.map_cons, number_cons, value_symbol head, List.length_map, List.flatMap_cons,
      Bits.valueOf_append, Bits.valueOf_bitsOf, Nat.mod_eq_of_lt head, Bits.length_flatMap_bitsOf,
      Nat.pow_mul, ih fun m hm => small m (List.mem_cons_of_mem _ hm)]

/-! ## Codewords -/

/-- A number is that of a code: ten octets, their checksum, and four bits of zero. -/
def IsCodeword (n : Nat) : Prop :=
  n % 2 ^ 4 = 0 ∧ Checksum.remainder 10 (n / 2 ^ 20) = n / 2 ^ 4 % 2 ^ 16

instance (n : Nat) : Decidable (IsCodeword n) := instDecidableAnd

/-- **The exclusive or of two codes is a code.** -/
theorem IsCodeword.xor {n m : Nat} (hn : IsCodeword n) (hm : IsCodeword m) : IsCodeword (n ^^^ m) := by
  unfold IsCodeword
  rw [Nat.xor_mod_two_pow, Nat.xor_div_two_pow, Nat.xor_div_two_pow, Nat.xor_mod_two_pow,
    Checksum.remainder_xor, hn.1, hn.2, hm.1, hm.2]
  exact ⟨Nat.xor_self 0, rfl⟩

theorem number_spell (random : Octets 10) :
    number (Base32.alphabet.spell (word random)) = Bytes.ofBigEndian (word random) * 2 ^ 4 := by
  have bits : (Bits.ofBytes (word random)).length = 96 := by
    rw [Bits.length_ofBytes, length_word]
  have enough : (Bits.ofBytes (word random)).length ≤ 5 * 20 := by omega
  have spelled : Base32.alphabet.spell (word random)
      = (Bits.digits 5 20 (Bits.ofBytes (word random))).map Base32.alphabet.symbol := by
    unfold Alphabet.spell
    dsimp only
    rw [bits]
    rfl
  rw [spelled, number_map_symbol Bits.digits_lt, Bits.flatMap_bitsOf_digits enough,
    Bits.valueOf_append, Bits.valueOf_replicate_false, Bits.valueOf_ofBytes, bits,
    List.length_replicate]
  rfl

theorem isCodeword_spell (random : Octets 10) :
    IsCodeword (number (Base32.alphabet.spell (word random))) := by
  have parts : Bytes.ofBigEndian (word random)
      = Bytes.ofBigEndian random.bytes * 2 ^ 16 + (Checksum.crc16 random.bytes).toNat := by
    have small : (Checksum.crc16 random.bytes).toNat % 256 ^ 2 = (Checksum.crc16 random.bytes).toNat :=
      Nat.mod_eq_of_lt (Checksum.crc16 random.bytes).toNat_lt
    rw [word, Checksum.octets, Bytes.ofBigEndian_append, Bytes.length_bigEndian,
      Bytes.ofBigEndian_bigEndian, small]
    rfl
  have checked := Checksum.toNat_crc16 random.bytes
  have short := (Checksum.crc16 random.bytes).toNat_lt
  rw [random.length_eq] at checked
  rw [number_spell, parts, checked]
  rw [checked] at short
  generalize Bytes.ofBigEndian random.bytes = front at *
  constructor
  · omega
  · have cut : (front * 2 ^ 16 + Checksum.remainder 10 front) * 2 ^ 4 / 2 ^ 20 = front := by omega
    rw [cut]
    omega

/-- The symbols of an accepted text write the number of a code. -/
theorem isCodeword_of_isActivation (h : isActivation text = true) :
    (text.toList.filter isSymbol).length = 20
      ∧ IsCodeword (number (text.toList.filter isSymbol)) := by
  obtain ⟨random, rfl⟩ := isActivation_iff.1 h
  have symbols : (encode random).toList.filter isSymbol = Base32.alphabet.spell (word random) := by
    rw [toList_encode]
    exact filter_grouped (length_spell_word random) fun _ => isSymbol_of_mem_spell
  rw [symbols]
  exact ⟨length_spell_word random, isCodeword_spell random⟩

/-- **What tells two accepted texts apart is a code by itself.** -/
theorem isCodeword_difference {front middle middle' back : List Char}
    (length : (middle.filter isSymbol).length = (middle'.filter isSymbol).length)
    (h : isActivation (String.ofList (front ++ (middle ++ back))) = true)
    (h' : isActivation (String.ofList (front ++ (middle' ++ back))) = true) :
    ∃ places, (middle.filter isSymbol).length + places ≤ 20
      ∧ IsCodeword ((number (middle.filter isSymbol) ^^^ number (middle'.filter isSymbol))
          * 2 ^ (5 * places)) := by
  obtain ⟨total, code⟩ := isCodeword_of_isActivation h
  obtain ⟨-, code'⟩ := isCodeword_of_isActivation h'
  simp only [String.toList_ofList, List.filter_append] at total code code'
  refine ⟨(back.filter isSymbol).length, ?_, ?_⟩
  · rw [List.length_append, List.length_append] at total
    omega
  · rw [← number_xor_number _ _ length]
    exact code.xor code'

/-! ## Differences that are no codes -/

/-- One wrong symbol. -/
theorem not_isCodeword_wrong {e places : Nat} (small : e < 2 ^ 5) (wrong : e ≠ 0)
    (inside : places < 20) : ¬ IsCodeword (e * 2 ^ (5 * places)) := by
  have all : ∀ places < 20, ∀ e < 2 ^ 5, e ≠ 0 → ¬ IsCodeword (e * 2 ^ (5 * places)) := by
    decide +kernel
  exact all places inside e small wrong

/-- The same difference in two places next to each other. -/
theorem not_isCodeword_swap {e places : Nat} (small : e < 2 ^ 5) (wrong : e ≠ 0)
    (inside : places < 19) : ¬ IsCodeword ((e * 2 ^ 5 + e) * 2 ^ (5 * places)) := by
  have all : ∀ places < 19, ∀ e < 2 ^ 5, e ≠ 0 → ¬ IsCodeword ((e * 2 ^ 5 + e) * 2 ^ (5 * places)) := by
    decide +kernel
  exact all places inside e small wrong

theorem value_xor_ne_zero (h : isSymbol c = true) (h' : isSymbol c' = true) (different : c ≠ c') :
    value c ^^^ value c' ≠ 0 := by
  intro zero
  exact different (value_inj h h' (Nat.eq_of_xor_eq_zero zero))

theorem isActivation_wrong {front rest : List Char}
    (valid : isActivation (String.ofList (front ++ c :: rest)) = true) (h : isSymbol c = true)
    (h' : isSymbol c' = true) (different : c ≠ c') :
    isActivation (String.ofList (front ++ c' :: rest)) = false := by
  cases accepted : isActivation (String.ofList (front ++ c' :: rest)) with
  | false => rfl
  | true =>
    have one : [c].filter isSymbol = [c] ∧ [c'].filter isSymbol = [c'] := by simp [h, h']
    have lengths : ([c].filter isSymbol).length = ([c'].filter isSymbol).length := by
      rw [one.1, one.2]
      rfl
    obtain ⟨places, inside, code⟩ := isCodeword_difference lengths valid accepted
    rw [one.1, one.2] at code
    rw [one.1, List.length_singleton] at inside
    have number_one (c : Char) : number [c] = value c := by simp [number]
    rw [number_one, number_one] at code
    have small : value c ^^^ value c' < 2 ^ 5 := Nat.xor_lt_two_pow (value_lt c) (value_lt c')
    exact absurd code (not_isCodeword_wrong small (value_xor_ne_zero h h' different) (by omega))

theorem isActivation_swapped {front between rest : List Char}
    (valid : isActivation (String.ofList (front ++ c :: (between ++ c' :: rest))) = true)
    (none : between.filter isSymbol = []) (h : isSymbol c = true) (h' : isSymbol c' = true)
    (different : c ≠ c') :
    isActivation (String.ofList (front ++ c' :: (between ++ c :: rest))) = false := by
  have regroup (c c' : Char) : front ++ c :: (between ++ c' :: rest)
      = front ++ ((c :: (between ++ [c'])) ++ rest) := by simp
  rw [regroup] at valid ⊢
  cases accepted : isActivation (String.ofList (front ++ ((c' :: (between ++ [c])) ++ rest))) with
  | false => rfl
  | true =>
    have two : (c :: (between ++ [c'])).filter isSymbol = [c, c']
        ∧ (c' :: (between ++ [c])).filter isSymbol = [c', c] := by
      simp [h, h', none]
    have lengths : ((c :: (between ++ [c'])).filter isSymbol).length
        = ((c' :: (between ++ [c])).filter isSymbol).length := by
      rw [two.1, two.2]
      rfl
    obtain ⟨places, inside, code⟩ := isCodeword_difference lengths valid accepted
    rw [two.1, two.2] at code
    rw [two.1] at inside
    have number_two (c c' : Char) : number [c, c'] = value c * 2 ^ 5 + value c' := by simp [number]
    rw [number_two, number_two, Checksum.mul_add_xor_mul_add (value_lt c') (value_lt c),
      Nat.xor_comm (value c')] at code
    have small : value c ^^^ value c' < 2 ^ 5 := Nat.xor_lt_two_pow (value_lt c) (value_lt c')
    have few : places < 19 := by
      have : 2 + places ≤ 20 := inside
      omega
    exact absurd code (not_isCodeword_swap small (value_xor_ne_zero h h' different) few)

/-! ## Typing errors -/

/-- **Typing errors are noticed.** In a text the check accepts, another symbol in the place of one makes a
text it refuses, and so does the exchange of two different symbols that stand next to each other or on
the two sides of a dash. -/
theorem mistyped_code_refused (text : String) (a a' : Ambient)
    (accepted : (checkActivation text).Gives a true a') :
    (∀ front c rest c', text.toList = front ++ c :: rest → isSymbol c = true → isSymbol c' = true
        → c ≠ c' → ∀ b, ∃ b',
          (checkActivation (String.ofList (front ++ c' :: rest))).Gives b false b')
    ∧ ∀ front c between c' rest, text.toList = front ++ c :: (between ++ c' :: rest)
        → between = [] ∨ between = ['-'] → isSymbol c = true → isSymbol c' = true
        → c ≠ c' → ∀ b, ∃ b',
          (checkActivation (String.ofList (front ++ c' :: (between ++ c :: rest)))).Gives b false b' := by
  have valid : isActivation text = true := by
    obtain ⟨a₁, gives⟩ := gives_checkActivation text a
    exact (gives.unique accepted).1
  constructor
  · intro front c rest c' spelled h h' different b
    have wrong : isActivation (String.ofList (front ++ c' :: rest)) = false := by
      refine isActivation_wrong ?_ h h' different
      rw [← spelled, String.ofList_toList]
      exact valid
    rw [← wrong]
    exact gives_checkActivation _ b
  · intro front c between c' rest spelled dash h h' different b
    have none : between.filter isSymbol = [] := by
      rcases dash with rfl | rfl
      · rfl
      · decide
    have swapped : isActivation (String.ofList (front ++ c' :: (between ++ c :: rest))) = false := by
      refine isActivation_swapped ?_ none h h' different
      rw [← spelled, String.ofList_toList]
      exact valid
    rw [← swapped]
    exact gives_checkActivation _ b

theorem refused_of_last_group :
    isActivation "VVVVV-VVVVV-VVVVV-VTFVA" = true
    ∧ (∀ b, ∃ b', (checkActivation "VVVVV-VVVVV-VVVVV-VTFVB").Gives b false b')
    ∧ ∀ b, ∃ b', (checkActivation "VVVVV-VVVVV-VVVVV-VFTVA").Gives b false b' := by
  let a : Ambient := ⟨⟨[], 7⟩, 0, []⟩
  let front := "VVVVV-VVVVV-VVVVV-V".toList
  have valid : isActivation "VVVVV-VVVVV-VVVVV-VTFVA" = true := by decide +kernel
  obtain ⟨a', accepted⟩ := gives_checkActivation "VVVVV-VVVVV-VVVVV-VTFVA" a
  rw [valid] at accepted
  obtain ⟨wrong, swapped⟩ := mistyped_code_refused _ a a' accepted
  exact ⟨valid, wrong (front ++ ['T', 'F', 'V']) 'A' [] 'B' rfl rfl rfl (by decide),
    swapped front 'T' [] 'F' ['V', 'A'] rfl (.inl rfl) rfl rfl (by decide)⟩

end Code

end DeviceAuth
