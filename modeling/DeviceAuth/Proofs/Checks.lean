import DeviceAuth.Failure
import DeviceAuth.Proofs.Effects

/-!
# Checks before work

An operation looks at what it was given and at what it finds before it works with any key. Which of
several faults it then reports is a matter of order, and the order is that of its text.

`Core.Screens x faults` says that `x` is a check: the first of `faults` ends it, and when there is none
it passes. `Core.Checks x faults` says the same of an operation that goes on after its checks; when there
is no fault it may still fail, but only over key material. One rule puts a check before an operation
(`Core.Screens.bind`) and one puts work behind it (`Core.Checks.bind`), and so the faults of a `do` block
are listed in the order of its lines. `Change.Checks` is the same for an operation on an object.
-/

set_option autoImplicit false

namespace DeviceAuth

/-! ## Failures -/

namespace Failure

/-- A failure over key material. Besides the cryptographic one that is the salt of a stored key, which
is looked at when the password is stretched with it. -/
def OfKeyMaterial (e : Failure) : Prop := e = .encryption ∨ e = .wrongParameter .saltTooShort

end Failure

variable {α β σ : Type}

/-- The fault a check of the state finds. -/
def stateFaults : Except Failure α → List StateFault
  | .error (.wrongState why) => [why]
  | _ => []

/-- The fault a check of an argument finds. -/
def parameterFaults : Except Failure α → List ParameterFault
  | .error (.wrongParameter why) => [why]
  | _ => []

/-- A check of the state. -/
def OfState (x : Except Failure α) : Prop := ∀ e, x = .error e → ∃ why, e = .wrongState why

/-- A check of an argument. -/
def OfArgument (x : Except Failure α) : Prop := ∀ e, x = .error e → ∃ why, e = .wrongParameter why

/-- A fault that is there under some condition. -/
def faultIf {ι : Type} (c : Bool) (why : ι) : List ι := if c then [why] else []

@[simp] theorem faultIf_false {ι : Type} (why : ι) : faultIf false why = [] := rfl

@[simp] theorem faultIf_true {ι : Type} (why : ι) : faultIf true why = [why] := rfl

theorem forall_mem_faultIf {ι : Type} {P : ι → Prop} {why : ι} (h : P why) (c : Bool) :
    ∀ x ∈ faultIf c why, P x := by
  cases c with
  | false => exact nofun
  | true => exact fun x hx => List.mem_singleton.1 hx ▸ h

theorem ofState_ok (v : α) : OfState (.ok v) := nofun

theorem ofState_wrongState (why : StateFault) : OfState (.error (.wrongState why) : Except Failure α) := by
  rintro _ ⟨⟩
  exact ⟨why, rfl⟩

theorem ofArgument_ok (v : α) : OfArgument (.ok v) := nofun

theorem ofArgument_wrongParameter (why : ParameterFault) :
    OfArgument (.error (.wrongParameter why) : Except Failure α) := by
  rintro _ ⟨⟩
  exact ⟨why, rfl⟩

theorem OfArgument.bind {x : Except Failure α} {f : α → Except Failure β} (hx : OfArgument x)
    (hf : ∀ v, OfArgument (f v)) : OfArgument (x >>= f) := by
  cases x with
  | error e => exact fun _ h => by cases h; exact hx e rfl
  | ok v => exact hf v

theorem OfArgument.map {x : Except Failure α} (hx : OfArgument x) (f : α → β) : OfArgument (x.map f) := by
  cases x with
  | error e => exact fun _ h => by cases h; exact hx e rfl
  | ok v => exact ofArgument_ok (f v)

/-- A check that finds these faults, and fails with the first of them. -/
def Finds (x : Except Failure α) : List Failure → Prop
  | [] => ∃ v, x = .ok v
  | e :: _ => x = .error e

section

variable {x : Except Failure α} {faults more : List Failure}

theorem finds_ok (v : α) : Finds (.ok v) [] := ⟨v, rfl⟩

theorem OfState.finds (h : OfState x) : Finds x ((stateFaults x).map .wrongState) := by
  cases x with
  | ok v => exact ⟨v, rfl⟩
  | error e =>
    obtain ⟨why, rfl⟩ := h e rfl
    rfl

theorem OfArgument.finds (h : OfArgument x) : Finds x ((parameterFaults x).map .wrongParameter) := by
  cases x with
  | ok v => exact ⟨v, rfl⟩
  | error e =>
    obtain ⟨why, rfl⟩ := h e rfl
    rfl

/-- A check after another one. -/
theorem Finds.bind {f : α → Except Failure β} (hx : Finds x faults)
    (hf : ∀ v, x = .ok v → Finds (f v) more) : Finds (x >>= f) (faults ++ more) := by
  cases faults with
  | nil =>
    obtain ⟨v, rfl⟩ := hx
    exact hf v rfl
  | cons e faults =>
    have failed : x = .error e := hx
    rw [failed]
    rfl

end

/-! ## Operations of the core -/

namespace Core

/-- A check that finds these faults, the first of which ends it. -/
def Screens (x : Core α) : List Failure → Prop
  | [] => x.Sure
  | e :: _ => ∀ a, ∃ a', x.result a = (.error e, a')

/-- The first of these faults ends the operation; without any it fails over key material only. -/
def Checks (x : Core α) : List Failure → Prop
  | [] => ∀ a e a', x.result a = (.error e, a') → e.OfKeyMaterial
  | e :: _ => ∀ a, ∃ a', x.result a = (.error e, a')

variable {faults more : List Failure}

theorem checks_of_sure {x : Core α} (h : x.Sure) : x.Checks [] := by
  intro a e a' failed
  obtain ⟨v, a₁, gives⟩ := h a
  cases gives.symm.trans failed

/-- A check, and what is done when it passes. -/
theorem Screens.bind {x : Core α} {f : α → Core β} (hx : x.Screens faults)
    (hf : ∀ a v a', x.Gives a v a' → (f v).Checks more) : (x >>= f).Checks (faults ++ more) := by
  cases faults with
  | cons e faults =>
    intro a
    obtain ⟨a', failed⟩ := hx a
    refine ⟨a', ?_⟩
    rw [result_bind, failed]
  | nil =>
    cases more with
    | cons e more =>
      intro a
      obtain ⟨v, a₁, passed⟩ := hx a
      obtain ⟨a', failed⟩ := hf a v a₁ passed a₁
      refine ⟨a', ?_⟩
      rw [result_bind, passed]
      exact failed
    | nil =>
      intro a e a' failed
      obtain ⟨v, a₁, passed⟩ := hx a
      rw [result_bind, passed] at failed
      exact hf a v a₁ passed a₁ e a' failed

/-- An operation, and work that is done with its outcome. -/
theorem Checks.bind {x : Core α} {f : α → Core β} (hx : x.Checks faults)
    (hf : ∀ a v a', x.Gives a v a' → (f v).Checks []) : (x >>= f).Checks faults := by
  cases faults with
  | cons e faults =>
    intro a
    obtain ⟨a', failed⟩ := hx a
    refine ⟨a', ?_⟩
    rw [result_bind, failed]
  | nil =>
    intro a e a' failed
    rw [result_bind] at failed
    cases ended : x.result a with
    | mk r a₁ =>
      cases r with
      | error e₁ =>
        rw [ended] at failed
        cases failed
        exact hx a e a' ended
      | ok v =>
        rw [ended] at failed
        exact hf a v a₁ ended a₁ e a' failed

/-- A check, and work that is done when it passes. -/
theorem Screens.bind_work {x : Core α} {f : α → Core β} (hx : x.Screens faults)
    (hf : ∀ a v a', x.Gives a v a' → (f v).Checks []) : (x >>= f).Checks faults := by
  have h := hx.bind hf
  rwa [List.append_nil] at h

theorem Screens.map {x : Core α} (hx : x.Screens faults) (f : α → β) : (f <$> x).Screens faults := by
  cases faults with
  | nil => exact Sure.map hx f
  | cons e faults =>
    intro a
    obtain ⟨a', failed⟩ := hx a
    refine ⟨a', ?_⟩
    rw [map_eq_pure_bind, result_bind, failed]

/-- A run fails with one of the faults, or over key material. -/
theorem Checks.mem_or {x : Core α} (h : x.Checks faults) {a a' : Ambient} {e : Failure}
    (failed : x.result a = (.error e, a')) : e ∈ faults ∨ e.OfKeyMaterial := by
  cases faults with
  | nil => exact .inr (h a e a' failed)
  | cons first faults =>
    obtain ⟨_, ended⟩ := h a
    cases failed.symm.trans ended
    exact .inl List.mem_cons_self

/-! ### Checks -/

theorem screens_of_sure {x : Core α} (h : x.Sure) : x.Screens [] := h

theorem screens_wrongParameter (why : ParameterFault) :
    (wrongParameter why : Core α).Screens [.wrongParameter why] := fun a => ⟨a, rfl⟩

theorem screens_checked {x : Except Failure α} (h : Finds x faults) :
    (liftM x : Core α).Screens faults := by
  cases faults with
  | nil =>
    obtain ⟨v, rfl⟩ := h
    exact fun a => ⟨v, a, rfl⟩
  | cons e faults =>
    have failed : x = .error e := h
    rw [failed]
    exact fun a => ⟨a, rfl⟩

theorem screens_state {x : Except Failure α} (h : OfState x) :
    (liftM x : Core α).Screens ((stateFaults x).map .wrongState) := screens_checked h.finds

theorem screens_argument {x : Except Failure α} (h : OfArgument x) :
    (liftM x : Core α).Screens ((parameterFaults x).map .wrongParameter) := screens_checked h.finds

theorem screens_reasoned (x : Except Reason α) :
    (liftM x : Core α).Screens (faultIf (! x.isOk) .encryption) := by
  cases x with
  | ok v => exact fun a => ⟨v, a, rfl⟩
  | error why => exact fun a => ⟨_, rfl⟩

theorem Checks.when {c : Prop} [Decidable c] {wrong : Bool} {why : ParameterFault} {rest : Core α}
    (same : wrong = true ↔ c) (h : rest.Checks more) :
    (if c then (wrongParameter why : Core Unit) >>= fun _ => rest else rest).Checks
      ((faultIf wrong why).map .wrongParameter ++ more) := by
  cases wrong with
  | true =>
    rw [if_pos (same.1 rfl)]
    exact (screens_wrongParameter why).bind fun _ _ _ _ => h
  | false =>
    rw [if_neg fun holds => Bool.noConfusion (same.2 holds)]
    exact h

theorem checks_reasoned (x : Except Reason α) : (liftM x : Core α).Checks [] := by
  intro a e a' failed
  cases x with
  | ok v => cases failed
  | error why =>
    cases failed
    exact Or.inl rfl

theorem checks_refuse (why : Reason) : (refuse why : Core α).Checks [] := by
  intro a e a' failed
  cases failed
  exact Or.inl rfl

end Core

/-! ## Operations on an object -/

namespace Change

/-- The first of these faults ends the operation on an object; without any it fails over key material
only. -/
def Checks (x : Change σ α) (s : σ) : List Failure → Prop
  | [] => ∀ a e s' a', x.result s a = ((.error e, s'), a') → e.OfKeyMaterial
  | e :: _ => ∀ a, ∃ s' a', x.result s a = ((.error e, s'), a')

variable {s : σ} {faults more : List Failure}

theorem checks_liftM {x : Core α} (h : x.Checks faults) : (liftM x : Change σ α).Checks s faults := by
  cases faults with
  | cons e faults =>
    intro a
    obtain ⟨a', failed⟩ := h a
    refine ⟨s, a', ?_⟩
    rw [result_liftM, failed]
  | nil =>
    intro a e s' a' failed
    rw [result_liftM] at failed
    cases ended : x.result a with
    | mk r a₁ =>
      rw [ended] at failed
      cases failed
      exact h a e _ ended

/-- A run fails with one of the faults, or over key material. -/
theorem Checks.mem_or {x : Change σ α} (h : x.Checks s faults) {a a' : Ambient} {e : Failure} {s' : σ}
    (failed : x.result s a = ((.error e, s'), a')) : e ∈ faults ∨ e.OfKeyMaterial := by
  cases faults with
  | nil => exact .inr (h a e s' a' failed)
  | cons first faults =>
    obtain ⟨_, _, ended⟩ := h a
    cases failed.symm.trans ended
    exact .inl List.mem_cons_self

theorem checks_of_sureAt {x : Change σ α} (h : x.SureAt s) : x.Checks s [] :=
  fun a e s' a' failed => absurd failed (h a e s' a')

theorem checks_object_bind {f : σ → Change σ β} (h : (f s).Checks s faults) :
    (object >>= f).Checks s faults := by
  cases faults with
  | nil => exact h
  | cons e faults => exact h

/-- A check, and what is done when it passes. -/
theorem checks_screen_bind {x : Core α} {f : α → Change σ β} (hx : x.Screens faults)
    (hf : ∀ a v a', x.Gives a v a' → (f v).Checks s more) :
    (liftM x >>= f).Checks s (faults ++ more) := by
  cases faults with
  | cons e faults =>
    intro a
    obtain ⟨a', failed⟩ := hx a
    refine ⟨s, a', ?_⟩
    rw [result_bind, result_liftM, failed]
  | nil =>
    cases more with
    | cons e more =>
      intro a
      obtain ⟨v, a₁, passed⟩ := hx a
      obtain ⟨s', a', failed⟩ := hf a v a₁ passed a₁
      exact ⟨s', a', (result_liftM_bind passed f s).trans failed⟩
    | nil =>
      intro a e s' a' failed
      obtain ⟨v, a₁, passed⟩ := hx a
      rw [result_liftM_bind passed] at failed
      exact hf a v a₁ passed a₁ e s' a' failed

theorem checks_find_bind {x : Except Failure α} {f : α → Change σ β} (h : Finds x faults)
    (hf : ∀ v, x = .ok v → (f v).Checks s more) : (liftM x >>= f).Checks s (faults ++ more) :=
  checks_screen_bind (Core.screens_checked h) fun _ v _ passed =>
    hf v (Core.gives_liftM_checked.1 passed).1

/-- A check, and work that is done when it passes. -/
theorem checks_find_work {x : Except Failure α} {f : α → Change σ β} (h : Finds x faults)
    (hf : ∀ v, x = .ok v → (f v).Checks s []) : (liftM x >>= f).Checks s faults := by
  have passed := checks_find_bind h hf
  rwa [List.append_nil] at passed

/-- An operation, and work that is done with its outcome. -/
theorem Checks.bind {x : Change σ α} {f : α → Change σ β} (hx : x.Checks s faults)
    (hf : ∀ a v s₁ a₁, x.Gives s a v s₁ a₁ → (f v).Checks s₁ []) : (x >>= f).Checks s faults := by
  cases faults with
  | cons e faults =>
    intro a
    obtain ⟨s', a', failed⟩ := hx a
    refine ⟨s', a', ?_⟩
    rw [result_bind, failed]
  | nil =>
    intro a e s' a' failed
    rw [result_bind] at failed
    cases ended : x.result s a with
    | mk r a₁ =>
      obtain ⟨r, s₁⟩ := r
      cases r with
      | error e₁ =>
        rw [ended] at failed
        cases failed
        exact hx a e s' a' ended
      | ok v =>
        rw [ended] at failed
        exact hf a v s₁ a₁ ended a₁ e s' a' failed

theorem Checks.map {x : Change σ α} (hx : x.Checks s faults) (f : α → β) :
    (f <$> x).Checks s faults := by
  rw [map_eq_pure_bind]
  exact hx.bind fun _ v _ _ _ => checks_of_sureAt (sureAt_pure (f v))

theorem Checks.when {c : Prop} [Decidable c] {wrong : Bool} {why : ParameterFault}
    {rest : Change σ α} (same : wrong = true ↔ c) (h : rest.Checks s more) :
    (if c then liftM (Core.wrongParameter why : Core Unit) >>= fun _ => rest else rest).Checks s
      ((faultIf wrong why).map .wrongParameter ++ more) := by
  cases wrong with
  | true =>
    rw [if_pos (same.1 rfl)]
    exact checks_screen_bind (Core.screens_wrongParameter why) fun _ _ _ _ => h
  | false =>
    rw [if_neg fun holds => Bool.noConfusion (same.2 holds)]
    exact h

theorem Checks.unless {c : Bool} {why : ParameterFault} {rest : Change σ α}
    (h : rest.Checks s more) :
    (if c = true then rest else liftM (Core.wrongParameter why : Core Unit) >>= fun _ => rest).Checks s
      ((faultIf (! c) why).map .wrongParameter ++ more) := by
  cases c with
  | true => exact h
  | false => exact checks_screen_bind (Core.screens_wrongParameter why) fun _ _ _ _ => h

end Change

end DeviceAuth
