import DeviceAuth.Proofs.Code.Mark
import DeviceAuth.Proofs.Text.Canonical

/-!
# The grammar of codes

A code is four groups of five characters with dashes between them, and the groups together are the
Base32 of ten octets and their checksum. `Code.Spells` says just that. `Code.code_grammar` says that the
checks accept what is spelled in this way and nothing else, that ten octets have one code, and that a
code spells one set of ten octets.

That last part is not for free: twenty symbols hold a hundred bits, and ten octets with their checksum
only ninety-six. It rests on the reading of Base32, which wants the four bits left over to be zeros, so
that symbols which are read as some octets are the spelling of these octets.
-/

set_option autoImplicit false

namespace DeviceAuth.Code

open Text

variable {text : String} {random : Octets 10} {symbols : List Char}

/-! ## Symbols -/

/-- What holds of the 128 characters of ASCII one by one holds of each of them. -/
theorem forall_ascii {p : Char → Prop} (h : ∀ n < 128, p (Char.ofNat n)) : ∀ c ≤ '\x7f', p c := by
  intro c ascii
  have found := h c.toNat (Nat.lt_succ_of_le (UInt32.le_iff_toNat_le.1 ascii))
  rwa [Char.ofNat_toNat] at found

theorem ascii_of_isSymbol {c : Char} (symbol : isSymbol c = true) : c ≤ '\x7f' := by
  simp only [isSymbol, Bool.or_eq_true, Bool.and_eq_true, decide_eq_true_eq] at symbol
  rcases symbol with ⟨-, last⟩ | ⟨-, last⟩
  · exact Char.le_trans last (by decide)
  · exact Char.le_trans last (by decide)

theorem isSymbol_iff_mem {c : Char} : isSymbol c = true ↔ c ∈ Base32.alphabet.symbols := by
  constructor
  · intro symbol
    have table : ∀ c ≤ '\x7f', isSymbol c = true → c ∈ Base32.alphabet.symbols :=
      forall_ascii (by decide +kernel)
    exact table c (ascii_of_isSymbol symbol) symbol
  · have all : Base32.alphabet.symbols.all isSymbol = true := by decide +kernel
    exact List.all_eq_true.1 all c

theorem isSymbol_of_mem_spell {bytes : Bytes} {c : Char} (h : c ∈ Base32.alphabet.spell bytes) :
    isSymbol c = true := by
  obtain ⟨values, digits, -⟩ := Option.bind_eq_some_iff.1 (Base32.read?_eq_some_iff.2 (rfl : _ = _))
  exact isSymbol_iff_mem.2 (Alphabet.mem_symbols_of_mapM digits c h)

/-! ## Groups -/

theorem grouped_append {first second third fourth : List Char} (h₁ : first.length = 5)
    (h₂ : second.length = 5) (h₃ : third.length = 5) :
    grouped (first ++ (second ++ (third ++ fourth)))
      = first ++ '-' :: (second ++ '-' :: (third ++ '-' :: fourth)) := by
  have none₁ : first.drop 10 = [] ∧ first.drop 15 = [] := by
    constructor <;> exact List.drop_eq_nil_of_le (by omega)
  have none₂ : second.drop 10 = [] := List.drop_eq_nil_of_le (by omega)
  unfold grouped
  simp [List.drop_append, h₁, h₂, h₃, none₁, none₂]

/-- Twenty symbols are four groups. -/
theorem exists_groups (h : symbols.length = 20) :
    ∃ first second third fourth : List Char, first.length = 5 ∧ second.length = 5
      ∧ third.length = 5 ∧ fourth.length = 5 ∧ symbols = first ++ (second ++ (third ++ fourth)) := by
  refine ⟨symbols.take 5, (symbols.drop 5).take 5, (symbols.drop 10).take 5, symbols.drop 15, ?_⟩
  have last := List.take_append_drop 5 (symbols.drop 10)
  have middle := List.take_append_drop 5 (symbols.drop 5)
  rw [List.drop_drop] at last middle
  rw [last, middle, List.take_append_drop]
  simp [h]

theorem length_grouped (h : symbols.length = 20) : (grouped symbols).length = length := by
  obtain ⟨first, second, third, fourth, h₁, h₂, h₃, h₄, rfl⟩ := exists_groups h
  rw [grouped_append h₁ h₂ h₃]
  simp [h₁, h₂, h₃, h₄, length]

/-- Without its dashes a code is its symbols. -/
theorem filter_grouped (h : symbols.length = 20) (all : ∀ c ∈ symbols, isSymbol c = true) :
    (grouped symbols).filter isSymbol = symbols := by
  obtain ⟨first, second, third, fourth, h₁, h₂, h₃, -, rfl⟩ := exists_groups h
  rw [grouped_append h₁ h₂ h₃]
  have dash : isSymbol '-' = false := by decide
  simp only [List.mem_append, or_imp, forall_and] at all
  obtain ⟨all₁, all₂, all₃, all₄⟩ := all
  simp [List.filter_append, dash, List.filter_eq_self.2 all₁,
    List.filter_eq_self.2 all₂, List.filter_eq_self.2 all₃, List.filter_eq_self.2 all₄]

theorem symbols?_eq_some_iff :
    symbols? text = some symbols ↔
      symbols.length = 20 ∧ (∀ c ∈ symbols, isSymbol c = true) ∧ text.toList = grouped symbols := by
  refine ⟨of_symbols?, ?_⟩
  rintro ⟨length, all, spelled⟩
  unfold symbols?
  dsimp only
  rw [spelled, filter_grouped length all, if_pos ⟨length, rfl⟩]

/-! ## Codes -/

/-- What the symbols of a code spell: ten octets and their checksum. -/
def word (random : Octets 10) : Bytes := random.bytes ++ Checksum.octets random.bytes

theorem length_word (random : Octets 10) : (word random).length = 12 := by
  simp [word, Checksum.octets, random.length_eq]

theorem length_spell_word (random : Octets 10) : (Base32.alphabet.spell (word random)).length = 20 := by
  unfold Alphabet.spell
  rw [List.length_map, Bits.length_digits, Bits.length_ofBytes, length_word]
  rfl

theorem word_inj {other : Octets 10} (h : word random = word other) : random = other := by
  have lengths : random.bytes.length = other.bytes.length := by
    rw [random.length_eq, other.length_eq]
  exact Octets.ext (List.append_inj h lengths).1

theorem toList_encode (random : Octets 10) :
    (encode random).toList = grouped (Base32.alphabet.spell (word random)) :=
  String.toList_ofList

theorem symbols?_encode (random : Octets 10) :
    symbols? (encode random) = some (Base32.alphabet.spell (word random)) :=
  symbols?_eq_some_iff.2
    ⟨length_spell_word random, fun _ => isSymbol_of_mem_spell, toList_encode random⟩

/-- **A text carries ten octets exactly when it is their code.** -/
theorem random?_eq_some_iff : random? text = some random ↔ text = encode random := by
  unfold random?
  constructor
  · intro h
    obtain ⟨symbols, found, h⟩ := Option.bind_eq_some_iff.1 h
    obtain ⟨bytes, read, h⟩ := Option.bind_eq_some_iff.1 h
    obtain ⟨front, cut, h⟩ := Option.bind_eq_some_iff.1 h
    obtain ⟨-, -, spelled⟩ := symbols?_eq_some_iff.1 found
    have first := Octets.ofBytes?_eq_some_iff.1 cut
    obtain ⟨_, checked, h⟩ := Option.bind_eq_some_iff.1 h
    have sum : bytes.drop 10 = Checksum.octets front.bytes := (Option.guard_eq_some' _).1 checked
    cases h
    have whole : bytes = word random := by
      rw [word, ← sum, ← first, List.take_append_drop]
    rw [← String.toList_inj, toList_encode, spelled, Base32.read?_eq_some_iff.1 read, whole]
  · rintro rfl
    have ten : random.bytes.length = 10 := random.length_eq
    have front : (word random).take 10 = random.bytes := List.take_left' ten
    have back : (word random).drop 10 = Checksum.octets random.bytes := List.drop_left' ten
    have cut : (Octets.ofBytes? random.bytes : Option (Octets 10)) = some random :=
      Octets.ofBytes?_eq_some_iff.2 rfl
    rw [symbols?_encode]
    simp only [Option.bind_eq_bind, Option.bind_some, Base32.read?_eq_some_iff.2 rfl, front, cut, back]
    exact Option.bind_eq_some_iff.2 ⟨(), (Option.guard_eq_some' ()).2 trivial, rfl⟩

theorem isActivation_iff : isActivation text = true ↔ ∃ random, text = encode random := by
  unfold isActivation
  rw [Option.isSome_iff_exists]
  exact exists_congr fun _ => random?_eq_some_iff

theorem isActivation_encode (random : Octets 10) : isActivation (encode random) = true :=
  isActivation_iff.2 ⟨random, rfl⟩

/-- A recovery code is a code, or a code behind the mark. -/
theorem isRecovery_iff :
    isRecovery text = true ↔
      ∃ random, unmarked text = encode random
        ∧ (text = encode random ∨ text = recoveryMark ++ encode random) := by
  constructor
  · intro valid
    obtain ⟨random, spelled⟩ := isActivation_iff.1 valid
    refine ⟨random, spelled, ?_⟩
    unfold unmarked at spelled
    split at spelled
    · next rest front =>
      refine Or.inr ?_
      have whole := List.isPrefixOf?_eq_some_iff_append_eq.1 front
      rw [← spelled, ← String.toList_inj, String.toList_append, String.toList_ofList, whole]
    · exact Or.inl spelled
  · rintro ⟨random, -, rfl | rfl⟩
    · exact isRecovery_of_isActivation (isActivation_encode random)
    · exact isRecovery_marked (isActivation_encode random)

/-! ## The format -/

/-- A text spells ten octets: its four groups of five are the Base32 of the octets and their checksum,
most significant octet first. -/
def Spells (text : String) (random : Octets 10) : Prop :=
  ∃ first second third fourth : String,
    first.length = 5 ∧ second.length = 5 ∧ third.length = 5 ∧ fourth.length = 5
      ∧ first ++ second ++ third ++ fourth
        = Base32.encode (random.bytes ++ Bytes.bigEndian 2 (Checksum.crc16 random.bytes).toNat)
      ∧ text = "-".intercalate [first, second, third, fourth]

theorem spells_iff : Spells text random ↔ text = encode random := by
  have spelling : (Base32.encode (word random)).toList = Base32.alphabet.spell (word random) :=
    String.toList_ofList
  constructor
  · rintro ⟨first, second, third, fourth, h₁, h₂, h₃, h₄, body, rfl⟩
    have symbols := congrArg String.toList body
    rw [String.toList_append, String.toList_append, String.toList_append, List.append_assoc,
      List.append_assoc] at symbols
    rw [← String.toList_inj, toList_encode, ← spelling, word, Checksum.octets, ← symbols,
      grouped_append h₁ h₂ h₃]
    simp
  · rintro rfl
    obtain ⟨first, second, third, fourth, h₁, h₂, h₃, h₄, symbols⟩ :=
      exists_groups (length_spell_word random)
    refine ⟨.ofList first, .ofList second, .ofList third, .ofList fourth, ?_⟩
    simp only [String.length_ofList]
    refine ⟨h₁, h₂, h₃, h₄, ?_, ?_⟩
    · show _ = Base32.encode (word random)
      rw [← String.toList_inj, spelling, symbols]
      simp
    · rw [← String.toList_inj, toList_encode, symbols, grouped_append h₁ h₂ h₃]
      simp

/-! ## Checks -/

theorem gives_checkActivation (text : String) (a : Ambient) :
    ∃ a', (checkActivation text).Gives a (isActivation text) a' := by
  obtain ⟨u, a', traced⟩ := sure_trace text a
  refine ⟨a', ?_⟩
  unfold checkActivation
  simp
  exact ⟨u, traced⟩

/-- What is no recovery code is refused. -/
theorem result_parseRecovery_of_false (invalid : isRecovery text = false) (a : Ambient) :
    ∃ a', (parseRecovery text).result a = (.error (.wrongParameter .recoveryCode), a') := by
  obtain ⟨a', checked⟩ := gives_checkActivation (unmarked text) a
  have refused : isActivation (unmarked text) = false := invalid
  refine ⟨a', ?_⟩
  unfold parseRecovery checkRecovery
  rw [Core.result_bind, checked, refused]
  rfl

/-- **The grammar of codes.** An activation code is what spells some ten octets. It spells no others, and
ten octets have one code, of twenty-three characters. A recovery code is such a code with or without
its mark; parsing accepts exactly these, gives the code without the mark, and leaves that as it is. -/
theorem code_grammar (text : String) :
    (isActivation text = true ↔ ∃ random, Spells text random)
    ∧ (∀ random other, Spells text random → Spells text other → random = other)
    ∧ (∀ random, ∃ code, (∀ other, Spells other random ↔ other = code) ∧ code.length = 23)
    ∧ (isRecovery text = true ↔
        ∃ code random, Spells code random ∧ (text = code ∨ text = recoveryMark ++ code))
    ∧ (∀ a, ∃ a', (checkActivation text).Gives a (isActivation text) a')
    ∧ (∀ a, ∃ a', (checkRecovery text).Gives a (isRecovery text) a')
    ∧ (isRecovery text = true → ∃ code random, Spells code random
        ∧ (text = code ∨ text = recoveryMark ++ code)
        ∧ (∀ a, ∃ a', (parseRecovery text).Gives a code a')
        ∧ ∀ a, ∃ a', (parseRecovery code).Gives a code a')
    ∧ (isRecovery text = false →
        ∀ a, ∃ a', (parseRecovery text).result a = (.error (.wrongParameter .recoveryCode), a')) := by
  simp only [spells_iff]
  refine ⟨isActivation_iff, ?_, ?_, ?_, gives_checkActivation text,
    gives_checkActivation (unmarked text), ?_, result_parseRecovery_of_false⟩
  · rintro random other spelled spelled'
    have same := congrArg symbols? (spelled.symm.trans spelled')
    rw [symbols?_encode, symbols?_encode] at same
    exact word_inj (Base32.spell_inj (Option.some.inj same))
  · intro random
    refine ⟨encode random, fun other => Iff.rfl, ?_⟩
    rw [← String.length_toList, toList_encode, length_grouped (length_spell_word random), length]
  · rw [isRecovery_iff]
    constructor
    · rintro ⟨random, -, spelled⟩
      exact ⟨_, random, rfl, spelled⟩
    · rintro ⟨_, random, rfl, spelled | spelled⟩
      · refine ⟨random, ?_, Or.inl spelled⟩
        rw [spelled, unmarked_of_isActivation (isActivation_encode random)]
      · refine ⟨random, ?_, Or.inr spelled⟩
        rw [spelled, unmarked_marked]
  · intro valid
    obtain ⟨random, plain, spelled⟩ := isRecovery_iff.1 valid
    have own := isActivation_encode random
    refine ⟨encode random, random, rfl, spelled, fun a => ?_, fun a => ?_⟩
    · rw [← plain]
      exact gives_parseRecovery valid a
    · have parsed := gives_parseRecovery (isRecovery_of_isActivation own) a
      rwa [unmarked_of_isActivation own] at parsed

theorem parsed_of_marked :
    isRecovery "R:VVVVV-VVVVV-VVVVV-VTFVA" = true
    ∧ ∃ code random, Spells code random ∧ "R:VVVVV-VVVVV-VVVVV-VTFVA" = recoveryMark ++ code
      ∧ ∀ a, ∃ a', (parseRecovery "R:VVVVV-VVVVV-VVVVV-VTFVA").Gives a code a' := by
  have valid : isRecovery "R:VVVVV-VVVVV-VVVVV-VTFVA" = true := by decide +kernel
  obtain ⟨-, -, -, -, -, -, parsed, -⟩ := code_grammar "R:VVVVV-VVVVV-VVVVV-VTFVA"
  obtain ⟨code, random, spelled, plain | marked, gives, -⟩ := parsed valid
  · -- The marked text is no code itself.
    obtain ⟨own, -⟩ := code_grammar code
    have activation : isActivation code = true := own.2 ⟨random, spelled⟩
    rw [← plain] at activation
    have none : isActivation "R:VVVVV-VVVVV-VVVVV-VTFVA" = false := by decide +kernel
    rw [none] at activation
    cases activation
  · exact ⟨valid, code, random, spelled, marked, gives⟩

end DeviceAuth.Code
