import Mathlib.Data.Option.Basic
import Mathlib.Tactic.SplitIfs
import DeviceAuth.Json.Reader

/-!
# What is written in JSON is read back

Every value is read from its own text, whatever it holds: texts with controls, quotes and any other
characters, numbers of any size, any nesting, and also the two lexemes of which a value only keeps that
they were there.

A reader takes its value from the front of a text, so each lemma says what a reader makes of a written
value with anything after it. After a numeral that anything must not go on with it (`Ends`); what is
written after a value inside another one never does.
-/

set_option autoImplicit false

namespace DeviceAuth.Json

/-! ## Literals -/

/-- Whether a character is written by its number. -/
def isNumbered (c : Char) : Bool := c.toNat < 32 && !(['\x08', '\x0c', '\n', '\r', '\t'].contains c)

/-- The piece a character is read as. -/
def pieceOf (c : Char) : Piece := if isNumbered c then .unit c.toNat else .char c

theorem hexUnit?_hexDigit : ∀ n < 32,
    hexUnit? '0' '0' (hexDigit (n / 16)) (hexDigit (n % 16)) = some n := by
  decide

theorem readPieces_letter {c e : Char} (letter : escaped? e = some c) (apart : e ≠ 'u')
    (rest : List Char) :
    readPieces ('\\' :: e :: rest) = (readPieces rest).map fun read => (.char c :: read.1, read.2) := by
  rw [readPieces]
  · simp [letter, Option.map_eq_bind]
  · intro _ _ _ _ _ same
    exact absurd same apart

theorem readPieces_plain {c : Char} (quote : c ≠ '"') (back : c ≠ '\\') (high : 32 ≤ c.toNat)
    (rest : List Char) :
    readPieces (c :: rest) = (readPieces rest).map fun read => (.char c :: read.1, read.2) := by
  rw [readPieces]
  · have plain : (guard (32 ≤ c.toNat ∧ c ≠ '\\') : Option Unit) = some () :=
      if_pos ⟨high, back⟩
    rw [plain]
    simp [Option.map_eq_bind]
  · exact quote
  · intro _ _ _ _ _ same
    exact absurd same back
  · intro _ _ same
    exact absurd same back

theorem readPieces_number {n : Nat} (low : n < 32) (rest : List Char) :
    readPieces ('\\' :: 'u' :: '0' :: '0' :: hexDigit (n / 16) :: hexDigit (n % 16) :: rest)
      = (readPieces rest).map fun read => (.unit n :: read.1, read.2) := by
  simp [readPieces, hexUnit?_hexDigit n low, Option.map_eq_bind]

theorem readPieces_renderChar (c : Char) (rest : List Char) :
    readPieces (renderChar c ++ rest) = (readPieces rest).map fun read => (pieceOf c :: read.1, read.2) := by
  unfold renderChar
  split_ifs with quoted back feed line ret tab low
  · rcases quoted with rfl | rfl
    · exact readPieces_letter rfl (by decide) rest
    · exact readPieces_letter rfl (by decide) rest
  · subst back
    exact readPieces_letter rfl (by decide) rest
  · subst feed
    exact readPieces_letter rfl (by decide) rest
  · subst line
    exact readPieces_letter rfl (by decide) rest
  · subst ret
    exact readPieces_letter rfl (by decide) rest
  · subst tab
    exact readPieces_letter rfl (by decide) rest
  · have piece : pieceOf c = .unit c.toNat := by simp [pieceOf, isNumbered, *]
    rw [piece]
    exact readPieces_number low rest
  · have piece : pieceOf c = .char c := by simp [pieceOf, isNumbered, low]
    rw [not_or] at quoted
    rw [piece]
    exact readPieces_plain quoted.1 quoted.2 (Nat.le_of_not_lt low) rest

theorem readPieces_flatMap (text rest : List Char) :
    readPieces (text.flatMap renderChar ++ '"' :: rest) = some (text.map pieceOf, rest) := by
  induction text with
  | nil => rfl
  | cons c text ih =>
    rw [List.flatMap_cons, List.append_assoc, readPieces_renderChar, ih]
    rfl

/-- A unit that is no half of a pair is a character of its own, whatever comes after it. -/
theorem joinPieces_unit {n : Nat} (leading : isLeading n = false) (trailing : isTrailing n = false)
    (pieces : List Piece) :
    joinPieces (.unit n :: pieces) = (joinPieces pieces).map (Char.ofNat n :: ·) := by
  rw [joinPieces.eq_def]
  split <;> simp_all [Option.map_eq_bind]

theorem joinPieces_pieceOf (c : Char) (pieces : List Piece) :
    joinPieces (pieceOf c :: pieces) = (joinPieces pieces).map (c :: ·) := by
  unfold pieceOf
  split
  · next numbered =>
    have low : c.toNat < 32 := by
      unfold isNumbered at numbered
      simp_all
    rw [joinPieces_unit, Char.ofNat_toNat]
    · simp [isLeading]
      omega
    · simp [isTrailing]
      omega
  · simp [joinPieces, Option.map_eq_bind]

theorem joinPieces_map (text : List Char) : joinPieces (text.map pieceOf) = some text := by
  induction text with
  | nil => rfl
  | cons c text ih => rw [List.map_cons, joinPieces_pieceOf, ih]; rfl

/-- A literal is read from its text, after the opening quote. -/
theorem readLiteral_renderLiteral (literal : Literal) :
    ∃ front, renderLiteral literal = '"' :: front
      ∧ ∀ rest, readLiteral (front ++ rest) = some (literal, rest) := by
  cases literal with
  | none => exact ⟨_, rfl, fun _ => rfl⟩
  | some text =>
    refine ⟨text.toList.flatMap renderChar ++ ['"'], rfl, fun rest => ?_⟩
    unfold readLiteral
    rw [List.append_assoc, List.singleton_append, readPieces_flatMap]
    simp [joinPieces_map]

/-! ## Numerals -/

/-- What comes next does not go on with a numeral. -/
def Ends : List Char → Prop
  | [] => True
  | c :: _ => c = ',' ∨ c = ']' ∨ c = '\x7d'

variable {rest : List Char}

theorem Ends.takeWhile (ends : Ends rest) : rest.takeWhile Char.isDigit = [] := by
  cases rest with
  | nil => rfl
  | cons c rest => rcases ends with rfl | rfl | rfl <;> rfl

theorem Ends.dropWhile (ends : Ends rest) : rest.dropWhile Char.isDigit = rest := by
  cases rest with
  | nil => rfl
  | cons c rest => rcases ends with rfl | rfl | rfl <;> rfl

theorem Ends.skipFraction (ends : Ends rest) : skipFraction rest = some rest := by
  cases rest with
  | nil => rfl
  | cons c rest => rcases ends with rfl | rfl | rfl <;> rfl

theorem Ends.skipExponent (ends : Ends rest) : skipExponent rest = some rest := by
  cases rest with
  | nil => rfl
  | cons c rest => rcases ends with rfl | rfl | rfl <;> rfl

theorem Ends.continues (ends : Ends rest) : continues rest = false := by
  cases rest with
  | nil => rfl
  | cons c rest => rcases ends with rfl | rfl | rfl <;> rfl

theorem digitsValue_toDigits (n : Nat) : digitsValue (Nat.toDigits 10 n) = n :=
  Nat.ofDigitChars_ten_toDigits

theorem isDigit_of_mem_toDigits {n : Nat} {c : Char} (h : c ∈ Nat.toDigits 10 n) : c.isDigit = true :=
  Nat.isDigit_of_mem_toDigits (by decide) (by decide) h

/-- Only zero is written with a zero in front. -/
theorem head?_toDigits (n : Nat) : Nat.toDigits 10 n = ['0'] ∨ (Nat.toDigits 10 n).head? ≠ some '0' := by
  induction n using Nat.strongRecOn with
  | ind n ih =>
    rw [Nat.toDigits_eq_if (by decide)]
    split
    · next small =>
      by_cases zero : n.digitChar = '0'
      · exact .inl (by rw [zero])
      · exact .inr (by simpa using zero)
    · next large =>
      right
      rcases ih (n / 10) (by omega) with zero | other
      · have value := digitsValue_toDigits (n / 10)
        rw [zero] at value
        have : n / 10 = 0 := value.symm
        omega
      · cases digits : Nat.toDigits 10 (n / 10) with
        | nil => exact absurd digits Nat.toDigits_ne_nil
        | cons c cs => simpa [digits] using other

theorem readWhole_toDigits (n : Nat) (ends : Ends rest) :
    readWhole (Nat.toDigits 10 n ++ rest) = some (Nat.toDigits 10 n, rest) := by
  have digits : readDigits (Nat.toDigits 10 n ++ rest) = some (Nat.toDigits 10 n, rest) := by
    unfold readDigits
    rw [List.takeWhile_append_of_pos fun _ => isDigit_of_mem_toDigits,
      List.dropWhile_append_of_pos fun _ => isDigit_of_mem_toDigits, ends.takeWhile, ends.dropWhile]
    simp
  have shortest : (guard (Nat.toDigits 10 n = ['0'] ∨ (Nat.toDigits 10 n).head? ≠ some '0') : Option Unit)
      = some () := if_pos (head?_toDigits n)
  unfold readWhole
  rw [digits]
  show (guard _ : Option Unit).bind _ = _
  rw [shortest]
  rfl

theorem readNumeral_toDigits (n : Nat) (ends : Ends rest) :
    readNumeral (Nat.toDigits 10 n ++ rest) = some (.whole n, rest) := by
  have whole := readWhole_toDigits n ends
  unfold readNumeral
  split
  · next sign =>
    cases digits : Nat.toDigits 10 n with
    | nil => exact absurd digits Nat.toDigits_ne_nil
    | cons c cs =>
      have digit : c.isDigit = true := isDigit_of_mem_toDigits (digits ▸ List.mem_cons_self)
      rw [digits] at sign
      cases sign
      cases digit
  · simp [whole, ends.continues, ends.skipFraction, ends.skipExponent, digitsValue_toDigits]

theorem readNumeral_decimal (ends : Ends rest) :
    readNumeral ('-' :: '0' :: rest) = some (.decimal, rest) := by
  have whole : readWhole ('0' :: rest) = some (['0'], rest) := readWhole_toDigits 0 ends
  simp [readNumeral, whole, ends.skipFraction, ends.skipExponent]

/-! ## Values -/

theorem skipBlanks_cons {c : Char} (visible : isBlank c = false) (rest : List Char) :
    skipBlanks (c :: rest) = c :: rest := by
  unfold skipBlanks
  rw [List.dropWhile_cons_of_neg (by simp [visible])]

theorem readValue_numeral {c : Char} (digit : c.isDigit = true ∨ c = '-') (steps : Nat) :
    readValue (steps + 1) (c :: rest) = readNumeral (c :: rest) := by
  have apart : c ≠ '"' ∧ c ≠ '[' ∧ c ≠ '\x7b' ∧ c ≠ 'n' ∧ c ≠ 't' ∧ c ≠ 'f' := by
    refine ⟨?_, ?_, ?_, ?_, ?_, ?_⟩ <;> rintro rfl <;> revert digit <;> decide
  rw [readValue]
  simp [apart]

/-- A written value begins with a character that is neither a blank nor the end of an array. -/
theorem exists_head (value : Json) :
    ∃ c front, value.renderChars = c :: front ∧ isBlank c = false ∧ c ≠ ']' := by
  cases value with
  | null => exact ⟨_, _, rfl, by decide, by decide⟩
  | bool b => cases b <;> exact ⟨_, _, rfl, by decide, by decide⟩
  | whole n =>
    rw [renderChars]
    cases digits : Nat.toDigits 10 n with
    | nil => exact absurd digits Nat.toDigits_ne_nil
    | cons c front =>
      have digit : c.isDigit = true := isDigit_of_mem_toDigits (digits ▸ List.mem_cons_self)
      refine ⟨c, front, rfl, ?_, ?_⟩
      · cases blank : isBlank c with
        | false => rfl
        | true =>
          exfalso
          simp only [isBlank, Bool.or_eq_true, decide_eq_true_eq] at blank
          rcases blank with ((rfl | rfl) | rfl) | rfl <;> revert digit <;> decide
      · rintro rfl
        revert digit
        decide
  | decimal => exact ⟨_, _, rfl, by decide, by decide⟩
  | literal text =>
    obtain ⟨front, shape, -⟩ := readLiteral_renderLiteral text
    exact ⟨_, front, by rw [renderChars, shape], by decide, by decide⟩
  | array items => cases items <;> rw [renderChars] <;> exact ⟨_, _, rfl, by decide, by decide⟩
  | object fields =>
    rcases fields with _ | ⟨⟨key, value⟩, fields⟩ <;> rw [renderChars] <;>
      exact ⟨_, _, rfl, by decide, by decide⟩

/-- The rest of an array does not go on with the item before it, nor that of an object. -/
theorem ends_renderItems (items : List Json) (rest : List Char) : Ends (renderItems items ++ rest) := by
  cases items with
  | nil => exact .inr (.inl rfl)
  | cons item items => exact .inl rfl

theorem ends_renderFields (fields : List (Literal × Json)) (rest : List Char) :
    Ends (renderFields fields ++ rest) := by
  cases fields with
  | nil => exact .inr (.inr rfl)
  | cons field fields => exact .inl rfl

mutual

/-- A value is read from the front of a text, with as many steps as it has characters. -/
theorem readValue_renderChars (value : Json) (steps : Nat) (rest : List Char) (ends : Ends rest)
    (enough : value.renderChars.length ≤ steps) :
    readValue steps (value.renderChars ++ rest) = some (value, rest) := by
  obtain ⟨steps, rfl⟩ : ∃ more, steps = more + 1 := by
    obtain ⟨c, front, shape, -⟩ := exists_head value
    rw [shape] at enough
    exact ⟨steps - 1, by simp at enough; omega⟩
  cases value with
  | null => rfl
  | bool b => cases b <;> rfl
  | whole n =>
    have numeral := readNumeral_toDigits n ends
    rw [renderChars]
    cases digits : Nat.toDigits 10 n with
    | nil => exact absurd digits Nat.toDigits_ne_nil
    | cons c front =>
      have digit : c.isDigit = true := isDigit_of_mem_toDigits (digits ▸ List.mem_cons_self)
      rw [digits] at numeral
      rw [List.cons_append, readValue_numeral (.inl digit)]
      exact numeral
  | decimal => exact (readValue_numeral (.inr rfl) steps).trans (readNumeral_decimal ends)
  | literal text =>
    obtain ⟨front, shape, reads⟩ := readLiteral_renderLiteral text
    rw [renderChars, shape, List.cons_append, readValue]
    simp [reads]
  | array items =>
    cases items with
    | nil => rfl
    | cons item items =>
      have inner := readItems_renderItems (item :: items) steps rest (by simp) enough
      obtain ⟨c, front, shape, visible, close⟩ := exists_head item
      rw [renderItems, List.cons_append, List.tail_cons, shape, List.cons_append, List.cons_append] at inner
      rw [renderChars, shape, List.cons_append, List.cons_append, readValue]
      simp only [Char.reduceEq, ↓reduceIte, List.cons_append, skipBlanks_cons visible]
      split
      · next same => exact absurd (List.cons.inj same).1 close
      · rw [inner]
        rfl
  | object fields =>
    rcases fields with _ | ⟨⟨key, value⟩, fields⟩
    · rfl
    · have inner := readFields_renderFields ((key, value) :: fields) steps rest (by simp) enough
      obtain ⟨front, shape, -⟩ := readLiteral_renderLiteral key
      rw [renderFields, List.cons_append, List.cons_append, List.tail_cons, shape] at inner
      rw [renderChars, shape]
      simp only [List.cons_append, readValue, Char.reduceEq, ↓reduceIte] at inner ⊢
      rw [skipBlanks_cons (by decide)]
      split
      · next same => exact absurd (List.cons.inj same).1 (by decide)
      · rw [inner]
        rfl

/-- So is the rest of an array, from one of its items on. -/
theorem readItems_renderItems (items : List Json) (steps : Nat) (rest : List Char) (some : items ≠ [])
    (enough : (renderItems items).length ≤ steps + 1) :
    readItems steps ((renderItems items).tail ++ rest) = Option.some (items, rest) := by
  cases items with
  | nil => exact absurd rfl some
  | cons item items =>
    rw [renderItems, List.cons_append, List.length_cons, List.length_append] at enough
    rw [renderItems, List.cons_append, List.tail_cons, List.append_assoc]
    have last : 0 < (renderItems items).length := by
      cases items <;> simp [renderItems]
    have first : 0 < item.renderChars.length := by
      obtain ⟨c, front, shape, -⟩ := exists_head item
      simp [shape]
    obtain ⟨steps, rfl⟩ : ∃ more, steps = more + 1 := ⟨steps - 1, by omega⟩
    have read := readValue_renderChars item steps (renderItems items ++ rest) (ends_renderItems items rest)
      (by omega)
    rw [readItems, read]
    cases items with
    | nil => rfl
    | cons next items =>
      have inner := readItems_renderItems (next :: items) steps rest (by simp) (by omega)
      obtain ⟨c, front, shape, visible, -⟩ := exists_head next
      rw [renderItems, List.cons_append, List.tail_cons, shape, List.cons_append, List.cons_append] at inner
      rw [List.append_assoc] at inner
      rw [renderItems, shape]
      simp [skipBlanks_cons (c := ',') (by decide), skipBlanks_cons visible, inner]

/-- So is the rest of an object, from one of its fields on. -/
theorem readFields_renderFields (fields : List (Literal × Json)) (steps : Nat) (rest : List Char)
    (some : fields ≠ []) (enough : (renderFields fields).length ≤ steps + 1) :
    readFields steps ((renderFields fields).tail ++ rest) = Option.some (fields, rest) := by
  rcases fields with _ | ⟨⟨key, value⟩, fields⟩
  · exact absurd rfl some
  · obtain ⟨front, shape, reads⟩ := readLiteral_renderLiteral key
    obtain ⟨c, start, begins, visible, -⟩ := exists_head value
    rw [renderFields, shape] at enough ⊢
    simp only [List.cons_append, List.length_cons, List.length_append, List.tail_cons,
      List.append_assoc] at enough ⊢
    have last : 0 < (renderFields fields).length := by
      rcases fields with _ | ⟨⟨_, _⟩, _⟩ <;> simp [renderFields]
    obtain ⟨steps, rfl⟩ : ∃ more, steps = more + 1 := ⟨steps - 1, by omega⟩
    have read := readValue_renderChars value steps (renderFields fields ++ rest)
      (ends_renderFields fields rest) (by omega)
    rw [begins, List.cons_append] at read
    rw [readFields]
    simp only [reads, begins, List.cons_append, Option.bind_eq_bind, Option.bind_some,
      skipBlanks_cons (c := ':') (by decide), skipBlanks_cons visible, read]
    rcases fields with _ | ⟨⟨next, held⟩, fields⟩
    · rfl
    · have inner := readFields_renderFields ((next, held) :: fields) steps rest (by simp) (by omega)
      obtain ⟨front, opens, -⟩ := readLiteral_renderLiteral next
      rw [renderFields, opens] at inner ⊢
      simp only [List.cons_append, List.tail_cons, List.append_assoc] at inner ⊢
      simp [skipBlanks_cons (c := ',') (by decide), skipBlanks_cons (c := '"') (by decide), inner]

end

/-- **What is written is read back.** -/
theorem read?_render (value : Json) : read? value.render = some value := by
  have read := readValue_renderChars value (value.renderChars.length + 1) [] trivial (Nat.le_succ _)
  obtain ⟨c, front, shape, visible, -⟩ := exists_head value
  rw [List.append_nil] at read
  unfold read? render readChars?
  rw [String.toList_ofList, shape, skipBlanks_cons visible, ← shape, read]
  rfl

theorem render_inj {value value' : Json} : value.render = value'.render ↔ value = value' := by
  constructor
  · intro same
    have read := read?_render value
    rw [same, read?_render] at read
    exact (Option.some.inj read).symm
  · rintro rfl
    rfl

end DeviceAuth.Json
