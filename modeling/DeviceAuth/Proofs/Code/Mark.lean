import Mathlib.Data.List.Basic
import DeviceAuth.Code.Basic
import DeviceAuth.Hash.Sha256
import DeviceAuth.Proofs.Effects

/-!
# Recovery codes and their mark

A recovery code is accepted with its mark and without. Whoever wants to know whether two texts stand for
one code has to take the mark off first, which `Code.unmarked` does: it takes one mark off, and leaves a
code that has none as it is. What is remembered of a code is the digest of what is left then.
-/

set_option autoImplicit false

namespace DeviceAuth

namespace Code

/-! ## With and without -/

/-- The mark is taken off once. -/
theorem unmarked_marked (code : String) : unmarked (recoveryMark ++ code) = code := by
  have front : recoveryMark.toList.isPrefixOf? (recoveryMark ++ code).toList = some code.toList := by
    rw [List.isPrefixOf?_eq_some_iff_append_eq, String.toList_append]
  unfold unmarked
  rw [front]
  exact String.ofList_toList

/-- The symbols of a text, if it is grouped as a code is. -/
theorem of_symbols? {code : String} {symbols : List Char} (found : symbols? code = some symbols) :
    symbols.length = 20 ∧ (∀ c ∈ symbols, isSymbol c = true) ∧ code.toList = grouped symbols := by
  unfold symbols? at found
  dsimp only at found
  split at found
  · next form =>
    cases found
    exact ⟨form.1, fun c hc => (List.mem_filter.1 hc).2, form.2.symm⟩
  · cases found

theorem exists_symbols {code : String} (h : isActivation code = true) :
    ∃ symbols, symbols.length = 20 ∧ (∀ c ∈ symbols, isSymbol c = true)
      ∧ code.toList = grouped symbols := by
  obtain ⟨random, spelled⟩ := Option.isSome_iff_exists.1 h
  obtain ⟨symbols, found, -⟩ := Option.bind_eq_some_iff.1 spelled
  exact ⟨symbols, of_symbols? found⟩

theorem unmarked_of_isActivation {code : String} (h : isActivation code = true) :
    unmarked code = code := by
  obtain ⟨symbols, length, all, spelled⟩ := exists_symbols h
  unfold unmarked
  cases front : recoveryMark.toList.isPrefixOf? code.toList with
  | none => rfl
  | some rest =>
    -- The second character of a code is a symbol, and that of the mark is none.
    have marked : 'R' :: ':' :: rest = grouped symbols :=
      (List.isPrefixOf?_eq_some_iff_append_eq.1 front).trans spelled
    cases symbols with
    | nil => cases length
    | cons first symbols =>
      cases symbols with
      | nil => cases length
      | cons second symbols =>
        have same : ':' = second := (List.cons.inj (List.cons.inj marked).2).1
        have symbol := all second (List.mem_cons_of_mem _ List.mem_cons_self)
        rw [← same] at symbol
        exact absurd symbol (by decide)

theorem isRecovery_marked {code : String} (h : isActivation code = true) :
    isRecovery (recoveryMark ++ code) = true := by
  unfold isRecovery
  rw [unmarked_marked]
  exact h

theorem isRecovery_of_isActivation {code : String} (h : isActivation code = true) :
    isRecovery code = true := by
  unfold isRecovery
  rw [unmarked_of_isActivation h]
  exact h

/-! ## Parsing -/

theorem parsed_of_gives {code parsed : String} {a a' : Ambient}
    (h : (parseRecovery code).Gives a parsed a') :
    isRecovery code = true ∧ parsed = unmarked code := by
  unfold parseRecovery checkRecovery checkActivation at h
  simp at h
  exact h.2

theorem sure_trace (text : String) : (trace text).Sure := by
  unfold trace
  cases symbols? text with
  | none => exact Core.sure_pure ()
  | some symbols =>
    dsimp only
    split
    · exact Core.sure_note _
    · exact Core.sure_pure ()

theorem gives_parseRecovery {code : String} (h : isRecovery code = true) (a : Ambient) :
    ∃ a', (parseRecovery code).Gives a (unmarked code) a' := by
  obtain ⟨u, a', traced⟩ := sure_trace (unmarked code) a
  have valid : isActivation (unmarked code) = true := h
  refine ⟨a', ?_⟩
  unfold parseRecovery checkRecovery checkActivation
  simp [valid]
  exact ⟨u, traced⟩

/-- What a recovery code is remembered by: the digest of the code without its mark. -/
def digest (code : String) : Octets 32 := sha256 (Bytes.ofText (unmarked code))

end Code

end DeviceAuth
