import Mathlib.Tactic.SplitIfs
import DeviceAuth.Text.Quoted

/-!
# A quoted text tells the text

What is shown between quotes in a description can be read back: an escape is known by its backslash, and
what follows tells which one it is. So two texts that are shown alike are one text (`quoted_inj`), and
whoever sees the description of a value knows every text that is quoted in it.
-/

set_option autoImplicit false

namespace DeviceAuth.Text

/-! ## Code points in hexadecimal -/

/-- The value of a hexadecimal digit as it is written here. -/
def digitValue (c : Char) : Nat := if c.isDigit then c.toNat - 48 else c.toNat - 87

/-- The number that hexadecimal digits write. -/
def pointValue (digits : List Char) : Nat := digits.foldl (fun n c => 16 * n + digitValue c) 0

theorem digitValue_digitChar : ∀ k < 16, digitValue k.digitChar = k := by decide

theorem pointValue_hexDigits (n : Nat) : pointValue (hexDigits n) = n := by
  unfold hexDigits
  induction n using Nat.strongRecOn with
  | ind n ih =>
    rw [Nat.toDigits_eq_if (by decide)]
    split
    · next small => simp [pointValue, digitValue_digitChar n small]
    · have high := ih (n / 16) (by omega)
      unfold pointValue at high ⊢
      rw [List.foldl_append, high]
      simp only [List.foldl_cons, List.foldl_nil, digitValue_digitChar (n % 16) (by omega)]
      omega

theorem brace_notMem_hexDigits (n : Nat) : '\x7d' ∉ hexDigits n := by
  have apart : ∀ k < 16, k.digitChar ≠ '\x7d' := by decide
  unfold hexDigits
  induction n using Nat.strongRecOn with
  | ind n ih =>
    rw [Nat.toDigits_eq_if (by decide)]
    split
    · simp
    · have high := ih (n / 16) (by omega)
      have low := apart (n % 16) (by omega)
      simp [high, low.symm]

/-! ## Reading back -/

/-- The character at the front of a quoted text, and what comes after it. -/
def unquoteChar? : List Char → Option (Char × List Char)
  | [] => none
  | '\\' :: 'u' :: '\x7b' :: rest =>
    let digits := rest.takeWhile (· ≠ '\x7d')
    some (Char.ofNat (pointValue digits), rest.drop (digits.length + 1))
  | '\\' :: '0' :: rest => some ('\x00', rest)
  | '\\' :: 't' :: rest => some ('\t', rest)
  | '\\' :: 'r' :: rest => some ('\r', rest)
  | '\\' :: 'n' :: rest => some ('\n', rest)
  | '\\' :: c :: rest => some (c, rest)
  | c :: rest => some (c, rest)

theorem unquoteChar?_pointEscape (c : Char) (rest : List Char) :
    unquoteChar? (pointEscape c ++ rest) = some (c, rest) := by
  have digits : (hexDigits c.toNat ++ '\x7d' :: rest).takeWhile (· ≠ '\x7d') = hexDigits c.toNat := by
    rw [List.takeWhile_append_of_pos]
    · simp
    · intro d hd
      have : d ≠ '\x7d' := fun same => brace_notMem_hexDigits c.toNat (same ▸ hd)
      simpa using this
  unfold pointEscape
  simp only [List.cons_append, List.nil_append, List.append_assoc, unquoteChar?, digits,
    pointValue_hexDigits, Char.ofNat_toNat]
  simp

theorem unquoteChar?_quotedChar (c : Char) (rest : List Char) :
    unquoteChar? (quotedChar c ++ rest) = some (c, rest) := by
  unfold quotedChar
  split_ifs with zero tab ret line escape printable
  · subst zero
    rfl
  · subst tab
    rfl
  · subst ret
    rfl
  · subst line
    rfl
  · rcases escape with rfl | rfl <;> rfl
  · rw [not_or] at escape
    simp [unquoteChar?, escape.1]
  · exact unquoteChar?_pointEscape c rest

theorem flatMap_quotedChar_inj {xs ys : List Char} (same : xs.flatMap quotedChar = ys.flatMap quotedChar) :
    xs = ys := by
  induction xs generalizing ys with
  | nil =>
    cases ys with
    | nil => rfl
    | cons y ys =>
      have read := unquoteChar?_quotedChar y (ys.flatMap quotedChar)
      rw [← List.flatMap_cons, ← same] at read
      cases read
  | cons x xs ih =>
    have read := unquoteChar?_quotedChar x (xs.flatMap quotedChar)
    rw [← List.flatMap_cons, same] at read
    cases ys with
    | nil => cases read
    | cons y ys =>
      rw [List.flatMap_cons, unquoteChar?_quotedChar] at read
      obtain ⟨rfl, rest⟩ := Prod.mk.inj (Option.some.inj read)
      rw [ih rest.symm]

/-- **Texts that are shown alike are one text.** -/
theorem quoted_inj {text text' : String} : quoted text = quoted text' ↔ text = text' := by
  constructor
  · intro same
    have letters := congrArg String.toList same
    unfold quoted at letters
    rw [String.toList_ofList, String.toList_ofList] at letters
    have inner := List.append_cancel_right (List.cons.inj letters).2
    exact String.toList_inj.1 (flatMap_quotedChar_inj inner)
  · rintro rfl
    rfl

end DeviceAuth.Text
