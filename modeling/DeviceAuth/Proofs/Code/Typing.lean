import Mathlib.Data.List.Forall2
import DeviceAuth.Proofs.Code.Grammar

/-!
# Typed codes

Whoever types a code may write its letters small, and take its `O` for a zero and its `I` for a one.
`TypedAs` says so, of one character. Correcting is the inverse of it and no more: a character is
corrected to another exactly when it is a way to type that one (`correctChar_eq_ok_iff`). Whole texts are
corrected character by character, so everything about them follows from there, also that a code comes
back from every way to type it.

Three tables have to agree for this, that of the correction, that of the symbols, and the alphabet in
which codes are read. They are compared over ASCII, where all of them end.
-/

set_option autoImplicit false

namespace DeviceAuth.Code

open Text

variable {c d : Char} {text code : String}

/-! ## Characters -/

/-- The characters a code consists of. -/
def IsShown (c : Char) : Prop := ('A' ≤ c ∧ c ≤ 'Z') ∨ ('2' ≤ c ∧ c ≤ '7') ∨ c = '-'

/-- The characters a code may be typed with. -/
def IsTypable (c : Char) : Prop :=
  ('A' ≤ c ∧ c ≤ 'Z') ∨ ('a' ≤ c ∧ c ≤ 'z') ∨ ('0' ≤ c ∧ c ≤ '7') ∨ c = '-'

instance (c : Char) : Decidable (IsShown c) := inferInstanceAs (Decidable (_ ∨ _))

instance (c : Char) : Decidable (IsTypable c) := inferInstanceAs (Decidable (_ ∨ _))

/-- The ways to type a character of a code. -/
inductive TypedAs : Char → Char → Prop
  | same (c : Char) : TypedAs c c
  | small {c : Char} (letter : 'A' ≤ c ∧ c ≤ 'Z') : TypedAs c c.toLower
  | zero : TypedAs 'O' '0'
  | one : TypedAs 'I' '1'

theorem typedAs_iff :
    TypedAs c d ↔
      d = c ∨ (('A' ≤ c ∧ c ≤ 'Z') ∧ d = c.toLower) ∨ (c = 'O' ∧ d = '0') ∨ (c = 'I' ∧ d = '1') := by
  constructor
  · rintro (_ | letter | _ | _)
    · exact .inl rfl
    · exact .inr (.inl ⟨letter, rfl⟩)
    · exact .inr (.inr (.inl ⟨rfl, rfl⟩))
    · exact .inr (.inr (.inr ⟨rfl, rfl⟩))
  · rintro (rfl | ⟨letter, rfl⟩ | ⟨rfl, rfl⟩ | ⟨rfl, rfl⟩)
    · exact .same d
    · exact .small letter
    · exact .zero
    · exact .one

instance (c d : Char) : Decidable (TypedAs c d) := decidable_of_iff _ typedAs_iff.symm

theorem isShown_iff : IsShown c ↔ isSymbol c = true ∨ c = '-' := by
  simp [IsShown, isSymbol, or_assoc]

theorem IsShown.isTypable (shown : IsShown c) : IsTypable c := by
  rcases shown with letter | digit | dash
  · exact .inl letter
  · exact .inr (.inr (.inl ⟨Char.le_trans (by decide) digit.1, digit.2⟩))
  · exact .inr (.inr (.inr dash))

/-! ## One character -/

theorem corrected?_symbol (symbol : isSymbol c = true) : corrected? c = some c := by
  have table : ∀ c ≤ '\x7f', isSymbol c = true → corrected? c = some c :=
    forall_ascii (by decide +kernel)
  exact table c (ascii_of_isSymbol symbol) symbol

theorem toLower_letter (letter : 'A' ≤ c ∧ c ≤ 'Z') :
    ('a' ≤ c.toLower ∧ c.toLower ≤ 'z') ∧ corrected? c.toLower = some c := by
  have table : ∀ c ≤ '\x7f', 'A' ≤ c ∧ c ≤ 'Z' →
      ('a' ≤ c.toLower ∧ c.toLower ≤ 'z') ∧ corrected? c.toLower = some c :=
    forall_ascii (by decide +kernel)
  exact table c (Char.le_trans letter.2 (by decide)) letter

theorem toUpper_letter (letter : 'a' ≤ c ∧ c ≤ 'z') :
    ('A' ≤ c.toUpper ∧ c.toUpper ≤ 'Z') ∧ c.toUpper.toLower = c := by
  have table : ∀ c ≤ '\x7f', 'a' ≤ c ∧ c ≤ 'z' →
      ('A' ≤ c.toUpper ∧ c.toUpper ≤ 'Z') ∧ c.toUpper.toLower = c :=
    forall_ascii (by decide +kernel)
  exact table c (Char.le_trans letter.2 (by decide)) letter

/-- **A character is corrected to the symbol it is a way to type.** -/
theorem corrected?_eq_some_iff : corrected? c = some d ↔ isSymbol d = true ∧ TypedAs d c := by
  constructor
  · intro h
    unfold corrected? at h
    split at h
    · next letter =>
      cases h
      obtain ⟨raised, back⟩ := toUpper_letter letter
      have typed := TypedAs.small raised
      rw [back] at typed
      exact ⟨by simp [isSymbol, raised], typed⟩
    · split at h
      · next zero =>
        cases h
        exact ⟨by decide, zero ▸ .zero⟩
      · split at h
        · next one =>
          cases h
          exact ⟨by decide, one ▸ .one⟩
        · split at h
          · next symbol =>
            cases h
            exact ⟨symbol, .same c⟩
          · cases h
  · rintro ⟨symbol, typed⟩
    cases typed with
    | same => exact corrected?_symbol symbol
    | small letter => exact (toLower_letter letter).2
    | zero => rfl
    | one => rfl

theorem correctChar_of_ne_dash (other : c ≠ '-') : correctChar c = .ok d ↔ corrected? c = some d := by
  unfold correctChar
  rw [if_neg other]
  cases corrected? c <;> simp

/-- **A character is corrected to what it is a way to type**, dashes included. -/
theorem correctChar_eq_ok_iff : correctChar c = .ok d ↔ IsShown d ∧ TypedAs d c := by
  rw [isShown_iff]
  by_cases dash : c = '-'
  · subst dash
    constructor
    · intro h
      cases h
      exact ⟨.inr rfl, .same _⟩
    · rintro ⟨symbol | rfl, typed⟩
      · cases corrected?_eq_some_iff.2 ⟨symbol, typed⟩
      · rfl
  · rw [correctChar_of_ne_dash dash, corrected?_eq_some_iff]
    constructor
    · exact fun h => ⟨.inl h.1, h.2⟩
    · rintro ⟨symbol | rfl, typed⟩
      · exact ⟨symbol, typed⟩
      · -- A dash is typed as a dash alone.
        cases typed with
        | same => exact absurd rfl dash
        | small letter => exact absurd letter (by decide)

theorem exists_correctChar_iff : (∃ d, correctChar c = .ok d) ↔ IsTypable c := by
  simp only [correctChar_eq_ok_iff]
  constructor
  · rintro ⟨d, shown, typed⟩
    cases typed with
    | same => exact shown.isTypable
    | small letter => exact .inr (.inl (toLower_letter letter).1)
    | zero => decide
    | one => decide
  · rintro (letter | letter | digit | dash)
    · exact ⟨c, .inl letter, .same c⟩
    · obtain ⟨raised, back⟩ := toUpper_letter letter
      have typed := TypedAs.small raised
      rw [back] at typed
      exact ⟨_, .inl raised, typed⟩
    · have table : ∀ c ≤ '\x7f', '0' ≤ c ∧ c ≤ '7' → (corrected? c).isSome = true :=
        forall_ascii (by decide +kernel)
      obtain ⟨d, corrected⟩ :=
        Option.isSome_iff_exists.1 (table c (Char.le_trans digit.2 (by decide)) digit)
      obtain ⟨symbol, typed⟩ := corrected?_eq_some_iff.1 corrected
      exact ⟨d, isShown_iff.2 (.inl symbol), typed⟩
    · exact ⟨c, .inr (.inr dash), .same c⟩

theorem correctChar_of_not_isTypable (foreign : ¬ IsTypable c) :
    correctChar c = .error (.wrongParameter (.typedCharacter c)) := by
  have none := mt exists_correctChar_iff.1 foreign
  unfold correctChar at none ⊢
  split
  · next dash => exact absurd (.inr (.inr (.inr dash))) foreign
  · next other =>
    rw [if_neg other] at none
    cases corrected : corrected? c with
    | none => rfl
    | some d => exact absurd ⟨d, by rw [corrected]⟩ none

/-! ## Whole texts -/

variable {cs ds : List Char}

theorem mapM_correctChar_eq_ok_iff :
    cs.mapM correctChar = .ok ds ↔ (∀ d ∈ ds, IsShown d) ∧ List.Forall₂ TypedAs ds cs := by
  induction cs generalizing ds with
  | nil => cases ds <;> simp [pure, Except.pure]
  | cons c cs ih =>
    rw [List.mapM_cons, except_bind_eq_ok_iff]
    simp only [except_bind_eq_ok_iff, correctChar_eq_ok_iff, ih]
    constructor
    · rintro ⟨d, ⟨shown, typed⟩, ds, ⟨all, rest⟩, same⟩
      cases same
      exact ⟨List.forall_mem_cons.2 ⟨shown, all⟩, .cons typed rest⟩
    · rintro ⟨all, typed⟩
      cases typed with
      | cons first rest =>
        obtain ⟨shown, all⟩ := List.forall_mem_cons.1 all
        exact ⟨_, ⟨shown, first⟩, _, ⟨all, rest⟩, rfl⟩

theorem mapM_correctChar_eq_error {c : Char} {rest : List Char} (typable : ∀ d ∈ cs, IsTypable d)
    (foreign : ¬ IsTypable c) :
    (cs ++ c :: rest).mapM correctChar = .error (.wrongParameter (.typedCharacter c)) := by
  induction cs with
  | nil =>
    rw [List.nil_append, List.mapM_cons, correctChar_of_not_isTypable foreign]
    rfl
  | cons d cs ih =>
    obtain ⟨first, typable⟩ := List.forall_mem_cons.1 typable
    obtain ⟨_, corrected⟩ := exists_correctChar_iff.2 first
    rw [List.cons_append, List.mapM_cons, corrected, ih typable]
    rfl

theorem exists_mapM_correctChar (typable : ∀ c ∈ cs, IsTypable c) :
    ∃ ds, cs.mapM correctChar = .ok ds := by
  induction cs with
  | nil => exact ⟨[], rfl⟩
  | cons c cs ih =>
    obtain ⟨first, typable⟩ := List.forall_mem_cons.1 typable
    obtain ⟨d, corrected⟩ := exists_correctChar_iff.2 first
    obtain ⟨ds, rest⟩ := ih typable
    refine ⟨d :: ds, ?_⟩
    rw [List.mapM_cons, corrected, rest]
    rfl

/-- **A text is corrected to the text it is a way to type.** -/
theorem correct_eq_ok_iff :
    correct text = .ok code ↔
      (∀ d ∈ code.toList, IsShown d) ∧ List.Forall₂ TypedAs code.toList text.toList := by
  rw [← mapM_correctChar_eq_ok_iff, correct]
  cases text.toList.mapM correctChar with
  | error e => simp [Except.map]
  | ok ds =>
    have same : String.ofList ds = code ↔ ds = code.toList := by
      rw [← String.toList_inj, String.toList_ofList]
    simpa [Except.map] using same

theorem correct_of_isShown (shown : ∀ c ∈ text.toList, IsShown c) : correct text = .ok text :=
  correct_eq_ok_iff.2 ⟨shown, List.forall₂_same.2 fun c _ => .same c⟩

/-- A text that cannot be typed is refused for the first character that cannot. -/
theorem correct_of_foreign (foreign : ∃ c ∈ text.toList, ¬ IsTypable c) :
    ∃ front c rest, text.toList = front ++ c :: rest ∧ (∀ d ∈ front, IsTypable d) ∧ ¬ IsTypable c
      ∧ correct text = .error (.wrongParameter (.typedCharacter c)) := by
  have found : (text.toList.find? (¬ IsTypable ·)).isSome = true := by
    simpa [List.find?_isSome] using foreign
  obtain ⟨c, first⟩ := Option.isSome_iff_exists.1 found
  obtain ⟨foreign, front, rest, split, typable⟩ := List.find?_eq_some_iff_append.1 first
  have foreign : ¬ IsTypable c := of_decide_eq_true foreign
  have typable : ∀ d ∈ front, IsTypable d := by simpa using typable
  refine ⟨front, c, rest, split, typable, foreign, ?_⟩
  rw [correct, split, mapM_correctChar_eq_error typable foreign]
  rfl

theorem exists_correct_iff : (∃ code, correct text = .ok code) ↔ ∀ c ∈ text.toList, IsTypable c := by
  constructor
  · rintro ⟨code, corrected⟩ c typed
    by_contra foreign
    obtain ⟨_, _, _, -, -, -, refused⟩ := correct_of_foreign ⟨c, typed, foreign⟩
    rw [corrected] at refused
    cases refused
  · intro typable
    obtain ⟨ds, corrected⟩ := exists_mapM_correctChar typable
    refine ⟨.ofList ds, ?_⟩
    rw [correct, corrected]
    rfl

/-! ## Codes -/

theorem isShown_of_isActivation (valid : isActivation code = true) : ∀ c ∈ code.toList, IsShown c := by
  obtain ⟨symbols, -, all, spelled⟩ := exists_symbols valid
  intro c member
  rw [spelled] at member
  have known : c ∈ symbols ∨ c = '-' := by
    simp only [grouped, List.mem_append, List.mem_cons] at member
    rcases member with ((member | rfl | member) | rfl | member) | rfl | member
    · exact .inl (List.mem_of_mem_take member)
    · exact .inr rfl
    · exact .inl (List.mem_of_mem_drop (List.mem_of_mem_take member))
    · exact .inr rfl
    · exact .inl (List.mem_of_mem_drop (List.mem_of_mem_take member))
    · exact .inr rfl
    · exact .inl (List.mem_of_mem_drop member)
  exact isShown_iff.2 (known.imp (all c) id)

/-- **Every symbol occurs in some code.** -/
theorem exists_code_of_isSymbol (symbol : isSymbol c = true) :
    ∃ code, isActivation code = true ∧ c ∈ code.toList := by
  -- The first five bits of the octets are the first symbol.
  let led (n : Nat) : Octets 10 := ⟨UInt8.ofNat (8 * n) :: List.replicate 9 0, rfl⟩
  have first : ∀ n < 32,
      Base32.alphabet.symbol n ∈ grouped (Base32.alphabet.spell (word (led n))) := by
    decide +kernel
  obtain ⟨n, digit⟩ := Alphabet.exists_digit?_of_mem (isSymbol_iff_mem.1 symbol)
  obtain ⟨small, rfl⟩ := Alphabet.symbol_of_digit? digit
  refine ⟨encode (led n), isActivation_encode _, ?_⟩
  rw [toList_encode]
  exact first n small

/-! ## Correcting -/

/-- **Correcting is the inverse of typing.** A text is corrected exactly when all its characters can be
typed, and otherwise refused for the first that cannot. What comes out is as long, consists of symbols
and dashes, and is not corrected any further; only a text that consists of them already is left as it is.
A code comes back from each way to type it, and from nothing else. The symbols are those that codes are
read with, and all of them occur in codes. -/
theorem correcting_inverts_typing (text : String) :
    ((∃ code, correct text = .ok code) ↔ ∀ c ∈ text.toList, IsTypable c)
    ∧ ((∃ c ∈ text.toList, ¬ IsTypable c) →
        ∃ front c rest, text.toList = front ++ c :: rest ∧ (∀ d ∈ front, IsTypable d)
          ∧ ¬ IsTypable c ∧ correct text = .error (.wrongParameter (.typedCharacter c)))
    ∧ (∀ code, correct text = .ok code →
        code.length = text.length ∧ (∀ c ∈ code.toList, IsShown c) ∧ correct code = .ok code
        ∧ (code = text ↔ ∀ c ∈ text.toList, IsShown c))
    ∧ (∀ code, isActivation code = true →
        (correct text = .ok code ↔ List.Forall₂ TypedAs code.toList text.toList))
    ∧ (∀ c d, corrected? c = some d → isSymbol d = true)
    ∧ (∀ c, isSymbol c = true ↔ ∃ n, Base32.alphabet.digit? c = some n)
    ∧ ∀ c, isSymbol c = true ↔ c ≠ '-' ∧ ∃ code, isActivation code = true ∧ c ∈ code.toList := by
  refine ⟨exists_correct_iff, correct_of_foreign, ?_, ?_, ?_, ?_, ?_⟩
  · intro code corrected
    obtain ⟨shown, typed⟩ := correct_eq_ok_iff.1 corrected
    have again := correct_of_isShown shown
    refine ⟨typed.length_eq, shown, again, ?_, ?_⟩
    · rintro rfl
      exact shown
    · intro own
      exact Except.ok.inj (corrected.symm.trans (correct_of_isShown own))
  · intro code valid
    rw [correct_eq_ok_iff]
    exact and_iff_right (isShown_of_isActivation valid)
  · exact fun c d corrected => (corrected?_eq_some_iff.1 corrected).1
  · intro c
    rw [isSymbol_iff_mem]
    exact ⟨Alphabet.exists_digit?_of_mem, fun ⟨n, digit⟩ => Alphabet.mem_of_digit? digit⟩
  · intro c
    constructor
    · intro symbol
      refine ⟨?_, exists_code_of_isSymbol symbol⟩
      rintro rfl
      cases symbol
    · rintro ⟨other, code, valid, member⟩
      exact (isShown_iff.1 (isShown_of_isActivation valid c member)).resolve_right other

/-- A code with letters that look like digits, typed small and with those digits; and one with a
character that no code has. -/
theorem corrected_of_lookalikes :
    isActivation "OIOAA-AAAAA-AAAAD-SAS5Q" = true
    ∧ List.Forall₂ TypedAs "OIOAA-AAAAA-AAAAD-SAS5Q".toList "01oaa-aaaAA-AAaad-SaS5q".toList
    ∧ correct "01oaa-aaaAA-AAaad-SaS5q" = .ok "OIOAA-AAAAA-AAAAD-SAS5Q"
    ∧ correct "OIOAA-AAAAA-AAAAD-SAS5Q" = .ok "OIOAA-AAAAA-AAAAD-SAS5Q"
    ∧ ∃ c, ¬ IsTypable c
      ∧ correct "OIOAA-8AAAA-AAAAD-SAS5Q" = .error (.wrongParameter (.typedCharacter c)) := by
  have valid : isActivation "OIOAA-AAAAA-AAAAD-SAS5Q" = true := by decide +kernel
  have typed : List.Forall₂ TypedAs "OIOAA-AAAAA-AAAAD-SAS5Q".toList
      "01oaa-aaaAA-AAaad-SaS5q".toList := by
    decide +kernel
  obtain ⟨-, -, result, back, -⟩ := correcting_inverts_typing "01oaa-aaaAA-AAaad-SaS5q"
  have corrected := (back _ valid).2 typed
  obtain ⟨-, -, again, -⟩ := result _ corrected
  obtain ⟨-, refused, -⟩ := correcting_inverts_typing "OIOAA-8AAAA-AAAAD-SAS5Q"
  obtain ⟨_, c, _, -, -, foreign, fails⟩ := refused ⟨'8', by decide, by decide⟩
  exact ⟨valid, typed, corrected, again, c, foreign, fails⟩

end DeviceAuth.Code
