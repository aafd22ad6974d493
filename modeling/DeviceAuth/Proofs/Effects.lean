import Mathlib.Tactic.Simproc.ExistsAndEq
import DeviceAuth.Core

/-!
# Reading an operation's run backwards

An operation of the core is a function of what surrounds it, and one that changes an object is a
function of the object as well. A proof about an operation starts from a run that ended well, and
wants to know what every step of it found.

`Core.Gives x a v a'` says that `x` ends well with `v` and takes the surroundings from `a` to `a'`;
`Change.Gives` says the same of an operation on an object. Each way of building an operation has one
equivalence below, and together they turn a run of a whole `do` block into the facts its steps
leave behind. Being equivalences, they are read forwards as well: to show that an operation ends
well is to supply those facts.

A failure is told the other way round. `Change.Atomic` says of an operation that it leaves the object
alone whenever it fails, and `Change.Atomic.bind` names the only danger: something was changed
already, and what comes after can still fail.
-/

set_option autoImplicit false

namespace DeviceAuth

/-- A chain of checks that passed has passed each of them. -/
theorem except_bind_eq_ok_iff {ε α β : Type} {x : Except ε α} {f : α → Except ε β} {w : β} :
    x >>= f = .ok w ↔ ∃ v, x = .ok v ∧ f v = .ok w := by
  cases x with
  | error e =>
    constructor
    · intro h
      cases h
    · rintro ⟨_, h, -⟩
      cases h
  | ok v =>
    constructor
    · exact fun h => ⟨v, rfl, h⟩
    · rintro ⟨_, h, hf⟩
      cases h
      exact hf

/-! ## Operations of the core -/

namespace Core

variable {α β : Type} {a a' : Ambient}

/-- How an operation ends, and what surrounds the core then. -/
def result (x : Core α) (a : Ambient) : Except Failure α × Ambient := x.run a

/-- The operation ends well with `v`, in surroundings `a'`. -/
def Gives (x : Core α) (a : Ambient) (v : α) (a' : Ambient) : Prop := x.result a = (.ok v, a')

/-- The operation ends well with `v` in any surroundings, and leaves them alone. -/
def Returns (x : Core α) (v : α) : Prop := ∀ a, x.Gives a v a

/-- The operation ends well in any surroundings. -/
def Sure (x : Core α) : Prop := ∀ a, ∃ v a', x.Gives a v a'

/-- The operation fails for a cryptographic reason in any surroundings. -/
def Refuses (x : Core α) : Prop := ∀ a, ∃ a', x.result a = (.error .encryption, a')

theorem Gives.unique {x : Core α} {a₁ a₂ : Ambient} {v w : α} (h₁ : x.Gives a v a₁)
    (h₂ : x.Gives a w a₂) : v = w ∧ a₁ = a₂ := by
  have h : ((.ok v, a₁) : Except Failure α × Ambient) = (.ok w, a₂) := h₁.symm.trans h₂
  simpa using h

theorem result_bind (x : Core α) (f : α → Core β) (a : Ambient) :
    (x >>= f).result a = match x.result a with
      | (.ok v, a₁) => (f v).result a₁
      | (.error e, a₁) => (.error e, a₁) := by
  show (match x.result a with
      | (r, a₁) => (ExceptT.bindCont f r) a₁ : Except Failure β × Ambient) = _
  rcases x.result a with ⟨_ | _, _⟩ <;> rfl

@[simp] theorem gives_pure {v w : α} :
    (pure v : Core α).Gives a w a' ↔ w = v ∧ a' = a := by
  have h : (pure v : Core α).result a = (.ok v, a) := rfl
  simp [Gives, h, eq_comm]

@[simp] theorem gives_bind {x : Core α} {f : α → Core β} {w : β} :
    (x >>= f).Gives a w a' ↔ ∃ v a₁, x.Gives a v a₁ ∧ (f v).Gives a₁ w a' := by
  unfold Gives
  rw [result_bind]
  rcases x.result a with ⟨e | v, a₁⟩
  · simp
  · constructor
    · intro h
      exact ⟨v, a₁, rfl, h⟩
    · rintro ⟨_, _, h, hf⟩
      cases h
      exact hf

@[simp] theorem gives_map {x : Core α} {f : α → β} {w : β} :
    (f <$> x).Gives a w a' ↔ ∃ v, x.Gives a v a' ∧ w = f v := by
  rw [map_eq_pure_bind]
  constructor
  · intro h
    obtain ⟨v, a₁, hx, hf⟩ := gives_bind.1 h
    obtain ⟨rfl, rfl⟩ := gives_pure.1 hf
    exact ⟨v, hx, rfl⟩
  · rintro ⟨v, hx, rfl⟩
    exact gives_bind.2 ⟨v, a', hx, gives_pure.2 ⟨rfl, rfl⟩⟩

@[simp] theorem gives_ite {c : Prop} [Decidable c] {x y : Core α} {v : α} :
    (if c then x else y).Gives a v a' ↔ if c then x.Gives a v a' else y.Gives a v a' := by
  split <;> rfl

@[simp] theorem gives_note {event : Event} {u : Unit} :
    (note event).Gives a u a' ↔ a' = { a with log := event :: a.log } := by
  have h : (note event).result a = (.ok (), { a with log := event :: a.log }) := rfl
  simp [Gives, h, eq_comm]

@[simp] theorem gives_draw {n : Nat} {octets : Octets n} :
    (draw n).Gives a octets a' ↔
      octets = (a.entropy.draw n).1 ∧ a' = { a with entropy := (a.entropy.draw n).2 } := by
  have h : (draw n).result a
      = (.ok (a.entropy.draw n).1, { a with entropy := (a.entropy.draw n).2 }) := rfl
  simp [Gives, h, eq_comm]

@[simp] theorem gives_now {time : Int} : now.Gives a time a' ↔ time = a.clock ∧ a' = a := by
  have h : now.result a = (.ok a.clock, a) := rfl
  simp [Gives, h, eq_comm]

@[simp] theorem gives_throw {failure : Failure} {v : α} :
    (throw failure : Core α).Gives a v a' ↔ False := by
  have h : (throw failure : Core α).result a = (.error failure, a) := rfl
  simp [Gives, h]

@[simp] theorem gives_wrongState {why : StateFault} {v : α} :
    (wrongState why : Core α).Gives a v a' ↔ False :=
  gives_throw

@[simp] theorem gives_wrongParameter {why : ParameterFault} {v : α} :
    (wrongParameter why : Core α).Gives a v a' ↔ False :=
  gives_throw

@[simp] theorem gives_refuse {why : Reason} {v : α} :
    (refuse why : Core α).Gives a v a' ↔ False := by
  unfold refuse
  simp

@[simp] theorem gives_liftM_reasoned {x : Except Reason α} {v : α} :
    (liftM x : Core α).Gives a v a' ↔ x = .ok v ∧ a' = a := by
  show (ofReasoned x).Gives a v a' ↔ _
  cases x <;> simp [ofReasoned, eq_comm]

@[simp] theorem gives_liftM_checked {x : Except Failure α} {v : α} :
    (liftM x : Core α).Gives a v a' ↔ x = .ok v ∧ a' = a := by
  have h : (liftM x : Core α).result a = (x, a) := rfl
  simp [Gives, h, eq_comm]

theorem sure_pure (v : α) : (pure v : Core α).Sure := fun a => ⟨v, a, gives_pure.2 ⟨rfl, rfl⟩⟩

theorem sure_note (event : Event) : (note event).Sure := fun _ => ⟨(), _, gives_note.2 rfl⟩

theorem sure_draw (n : Nat) : (draw n).Sure := fun _ => ⟨_, _, gives_draw.2 ⟨rfl, rfl⟩⟩

theorem Sure.bind {x : Core α} {f : α → Core β} (hx : x.Sure) (hf : ∀ v, (f v).Sure) :
    (x >>= f).Sure := by
  intro a
  obtain ⟨v, a₁, hv⟩ := hx a
  obtain ⟨w, a', hw⟩ := hf v a₁
  exact ⟨w, a', gives_bind.2 ⟨v, a₁, hv, hw⟩⟩

theorem Sure.map {x : Core α} (hx : x.Sure) (f : α → β) : (f <$> x).Sure := by
  intro a
  obtain ⟨v, a', hv⟩ := hx a
  exact ⟨f v, a', gives_map.2 ⟨v, hv, rfl⟩⟩

theorem refuses_refuse (why : Reason) : (refuse why : Core α).Refuses := fun _ => ⟨_, rfl⟩

theorem refuses_reasoned {x : Except Reason α} (h : ∀ v, x ≠ .ok v) : (liftM x : Core α).Refuses := by
  cases x with
  | error why => exact refuses_refuse why
  | ok v => exact absurd rfl (h v)

/-- A pure result is a refusal exactly if there is no result. -/
theorem refuses_reasoned_iff {x : Except Reason α} :
    (liftM x : Core α).Refuses ↔ ∀ v, x ≠ .ok v := by
  refine ⟨?_, refuses_reasoned⟩
  rintro refused v rfl
  obtain ⟨a', failed⟩ := refused ⟨⟨[], 0⟩, 0, []⟩
  cases failed

theorem Refuses.bind {x : Core α} (hx : x.Refuses) (f : α → Core β) : (x >>= f).Refuses := by
  intro a
  obtain ⟨a', failed⟩ := hx a
  refine ⟨a', ?_⟩
  rw [result_bind, failed]

/-- What follows an operation that ends well refuses in its place. -/
theorem bind_refuses {x : Core α} {f : α → Core β} {v : α} (hx : ∀ a, ∃ a', x.Gives a v a')
    (hf : (f v).Refuses) : (x >>= f).Refuses := by
  intro a
  obtain ⟨a₁, passed⟩ := hx a
  obtain ⟨a', failed⟩ := hf a₁
  refine ⟨a', ?_⟩
  rw [result_bind, passed]
  exact failed

theorem Returns.bind_refuses {x : Core α} {f : α → Core β} {v : α} (hx : x.Returns v)
    (hf : (f v).Refuses) : (x >>= f).Refuses :=
  Core.bind_refuses (fun a => ⟨a, hx a⟩) hf

theorem returns_reasoned {x : Except Reason α} {v : α} :
    (liftM x : Core α).Returns v ↔ x = .ok v :=
  ⟨fun h => (gives_liftM_reasoned.1 (h ⟨⟨[], 0⟩, 0, []⟩)).1,
    fun h _ => gives_liftM_reasoned.2 ⟨h, rfl⟩⟩

end Core

/-! ## Operations on an object -/

namespace Change

variable {α β σ : Type} {s s' : σ} {a a' : Ambient}

/-- How an operation ends, the object then, and what surrounds the core. -/
def result (x : Change σ α) (s : σ) (a : Ambient) : (Except Failure α × σ) × Ambient := x.perform s a

/-- The operation ends well with `v`, and leaves the object as `s'` in surroundings `a'`. -/
def Gives (x : Change σ α) (s : σ) (a : Ambient) (v : α) (s' : σ) (a' : Ambient) : Prop :=
  x.result s a = ((.ok v, s'), a')

theorem result_bind (x : Change σ α) (f : α → Change σ β) (s : σ) (a : Ambient) :
    (x >>= f).result s a = match x.result s a with
      | ((.ok v, s₁), a₁) => (f v).result s₁ a₁
      | ((.error e, s₁), a₁) => ((.error e, s₁), a₁) := by
  show (match x.result s a with
      | ((r, s₁), a₁) => (ExceptT.bindCont f r) s₁ a₁ : (Except Failure β × σ) × Ambient) = _
  rcases x.result s a with ⟨⟨_ | _, _⟩, _⟩ <;> rfl

theorem result_object_bind (f : σ → Change σ β) (s : σ) (a : Ambient) :
    (object >>= f).result s a = (f s).result s a := rfl

theorem result_liftM (x : Core α) (s : σ) (a : Ambient) :
    (liftM x : Change σ α).result s a = (((x.result a).1, s), (x.result a).2) := rfl

theorem result_liftM_bind {x : Core α} {v : α} (h : x.Gives a v a') (f : α → Change σ β) (s : σ) :
    (liftM x >>= f).result s a = (f v).result s a' := by
  have first : (liftM x : Change σ α).result s a = ((.ok v, s), a') := by
    show (((x.result a).1, s), (x.result a).2) = _
    rw [h]
  rw [result_bind, first]

theorem result_checked_bind (x : Except Failure α) (f : α → Change σ β) (s : σ) (a : Ambient) :
    (liftM x >>= f).result s a = match x with
      | .ok v => (f v).result s a
      | .error e => ((.error e, s), a) := by
  cases x <;> rfl

theorem result_map_error {x : Change σ α} {e : Failure} (h : x.result s a = ((.error e, s'), a'))
    (f : α → β) : (f <$> x).result s a = ((.error e, s'), a') := by
  rw [map_eq_pure_bind, result_bind, h]

@[simp] theorem gives_pure {v w : α} :
    (pure v : Change σ α).Gives s a w s' a' ↔ w = v ∧ s' = s ∧ a' = a := by
  have h : (pure v : Change σ α).result s a = ((.ok v, s), a) := rfl
  simp [Gives, h, eq_comm, and_assoc]

@[simp] theorem gives_bind {x : Change σ α} {f : α → Change σ β} {w : β} :
    (x >>= f).Gives s a w s' a' ↔
      ∃ v s₁ a₁, x.Gives s a v s₁ a₁ ∧ (f v).Gives s₁ a₁ w s' a' := by
  unfold Gives
  rw [result_bind]
  rcases x.result s a with ⟨⟨e | v, s₁⟩, a₁⟩
  · simp
  · constructor
    · intro h
      exact ⟨v, s₁, a₁, rfl, h⟩
    · rintro ⟨_, _, _, h, hf⟩
      cases h
      exact hf

@[simp] theorem gives_map {x : Change σ α} {f : α → β} {w : β} :
    (f <$> x).Gives s a w s' a' ↔ ∃ v, x.Gives s a v s' a' ∧ w = f v := by
  rw [map_eq_pure_bind]
  constructor
  · intro h
    obtain ⟨v, s₁, a₁, hx, hf⟩ := gives_bind.1 h
    obtain ⟨rfl, rfl, rfl⟩ := gives_pure.1 hf
    exact ⟨v, hx, rfl⟩
  · rintro ⟨v, hx, rfl⟩
    exact gives_bind.2 ⟨v, s', a', hx, gives_pure.2 ⟨rfl, rfl, rfl⟩⟩

@[simp] theorem gives_ite {c : Prop} [Decidable c] {x y : Change σ α} {v : α} :
    (if c then x else y).Gives s a v s' a' ↔
      if c then x.Gives s a v s' a' else y.Gives s a v s' a' := by
  split <;> rfl

@[simp] theorem gives_object {v : σ} :
    (object : Change σ σ).Gives s a v s' a' ↔ v = s ∧ s' = s ∧ a' = a := by
  have h : (object : Change σ σ).result s a = ((.ok s, s), a) := rfl
  simp [Gives, h, eq_comm, and_assoc]

theorem gives_object_bind {f : σ → Change σ β} {w : β} :
    (object >>= f).Gives s a w s' a' ↔ (f s).Gives s a w s' a' := by
  rw [gives_bind]
  constructor
  · rintro ⟨_, _, _, h, hf⟩
    obtain ⟨rfl, rfl, rfl⟩ := gives_object.1 h
    exact hf
  · intro hf
    exact ⟨s, s, a, gives_object.2 ⟨rfl, rfl, rfl⟩, hf⟩

@[simp] theorem gives_become {t : σ} {u : Unit} :
    (become t).Gives s a u s' a' ↔ s' = t ∧ a' = a := by
  have h : (become t).result s a = ((.ok (), t), a) := rfl
  simp [Gives, h, eq_comm]

@[simp] theorem gives_liftM {x : Core α} {v : α} :
    (liftM x : Change σ α).Gives s a v s' a' ↔ x.Gives a v a' ∧ s' = s := by
  have h : (liftM x : Change σ α).result s a = (((x.result a).1, s), (x.result a).2) := rfl
  unfold Gives Core.Gives
  rw [h]
  simp [Prod.ext_iff]
  grind

@[simp] theorem gives_liftM_reasoned {x : Except Reason α} {v : α} :
    (liftM x : Change σ α).Gives s a v s' a' ↔ x = .ok v ∧ s' = s ∧ a' = a := by
  have h : (liftM x : Change σ α) = liftM (liftM x : Core α) := rfl
  rw [h, gives_liftM, Core.gives_liftM_reasoned]
  grind

@[simp] theorem gives_liftM_checked {x : Except Failure α} {v : α} :
    (liftM x : Change σ α).Gives s a v s' a' ↔ x = .ok v ∧ s' = s ∧ a' = a := by
  have h : (liftM x : Change σ α).result s a = ((x, s), a) := rfl
  simp [Gives, h, eq_comm, and_assoc]

theorem gives_liftM_bind {x : Core α} {f : α → Change σ β} {w : β} :
    (liftM x >>= f).Gives s a w s' a' ↔ ∃ v a₁, x.Gives a v a₁ ∧ (f v).Gives s a₁ w s' a' := by
  simp only [gives_bind, gives_liftM]
  constructor
  · rintro ⟨v, _, a₁, ⟨hx, rfl⟩, hf⟩
    exact ⟨v, a₁, hx, hf⟩
  · rintro ⟨v, a₁, hx, hf⟩
    exact ⟨v, s, a₁, ⟨hx, rfl⟩, hf⟩

theorem gives_checked_bind {x : Except Failure α} {f : α → Change σ β} {w : β} :
    (liftM x >>= f).Gives s a w s' a' ↔ ∃ v, x = .ok v ∧ (f v).Gives s a w s' a' := by
  simp only [gives_bind, gives_liftM_checked]
  constructor
  · rintro ⟨v, _, _, ⟨hx, rfl, rfl⟩, hf⟩
    exact ⟨v, hx, hf⟩
  · rintro ⟨v, hx, hf⟩
    exact ⟨v, s, a, ⟨hx, rfl, rfl⟩, hf⟩

/-! ## Being refused -/

/-- The operation fails for a cryptographic reason in any surroundings, and leaves the object alone. -/
def Refuses (x : Change σ α) (s : σ) : Prop := ∀ a, ∃ a', x.result s a = ((.error .encryption, s), a')

theorem refuses_liftM {x : Core α} (h : x.Refuses) (s : σ) : (liftM x : Change σ α).Refuses s := by
  intro a
  obtain ⟨a', failed⟩ := h a
  refine ⟨a', ?_⟩
  rw [result_liftM, failed]

theorem refuses_reasoned {x : Except Reason α} (h : ∀ v, x ≠ .ok v) (s : σ) :
    (liftM x : Change σ α).Refuses s :=
  refuses_liftM (Core.refuses_reasoned h) s

theorem Refuses.bind {x : Change σ α} (hx : x.Refuses s) (f : α → Change σ β) :
    (x >>= f).Refuses s := by
  intro a
  obtain ⟨a', failed⟩ := hx a
  refine ⟨a', ?_⟩
  rw [result_bind, failed]

/-- What is refused once a look at the object and some checks are done. -/
theorem Refuses.after {x : Core α} {v : α} (hx : x.Returns v) {f : α → Change σ β}
    (hf : (f v).Refuses s) : (liftM x >>= f).Refuses s := by
  intro a
  obtain ⟨a', failed⟩ := hf a
  exact ⟨a', (result_liftM_bind (hx a) f s).trans failed⟩

/-! ## Failing without a trace -/

/-- The operation never touches the object. -/
def Still (x : Change σ α) : Prop := ∀ s a, (x.result s a).1.2 = s

/-- The operation leaves the object as it was, should it fail. -/
def Atomic (x : Change σ α) : Prop :=
  ∀ s a e s' a', x.result s a = ((.error e, s'), a') → s' = s

/-- The operation does not fail on this object. -/
def SureAt (x : Change σ α) (s : σ) : Prop := ∀ a e s' a', x.result s a ≠ ((.error e, s'), a')

theorem Still.atomic {x : Change σ α} (h : x.Still) : x.Atomic := by
  intro s a e s' a' hx
  have := h s a
  rw [hx] at this
  exact this

theorem Still.gives {x : Change σ α} (h : x.Still) {v : α} (hx : x.Gives s a v s' a') : s' = s := by
  have := h s a
  rw [hx] at this
  exact this

theorem still_object : (object : Change σ σ).Still := fun _ _ => rfl

theorem still_pure (v : α) : (pure v : Change σ α).Still := fun _ _ => rfl

theorem still_liftM (x : Core α) : (liftM x : Change σ α).Still := fun _ _ => rfl

theorem still_liftM_checked (x : Except Failure α) : (liftM x : Change σ α).Still := fun _ _ => rfl

theorem still_liftM_reasoned (x : Except Reason α) : (liftM x : Change σ α).Still :=
  still_liftM (liftM x : Core α)

/-- **A sequence is atomic** when its first part is, and what follows a first part that changed the
object cannot fail any more. -/
theorem Atomic.bind {x : Change σ α} {f : α → Change σ β} (hx : x.Atomic)
    (hf : ∀ s a v s₁ a₁, x.Gives s a v s₁ a₁ → (s₁ = s ∧ (f v).Atomic) ∨ (f v).SureAt s₁) :
    (x >>= f).Atomic := by
  intro s a e s' a' h
  rw [result_bind] at h
  cases hr : x.result s a with
  | mk r a₁ =>
    obtain ⟨r | v, s₁⟩ := r
    · rw [hr] at h
      cases h
      exact hx s a _ _ _ hr
    · rw [hr] at h
      rcases hf s a v s₁ a₁ hr with ⟨rfl, hv⟩ | hv
      · exact hv _ _ _ _ _ h
      · exact absurd h (hv _ _ _ _)

theorem Still.bind_atomic {x : Change σ α} {f : α → Change σ β} (hx : x.Still)
    (hf : ∀ v, (f v).Atomic) : (x >>= f).Atomic :=
  hx.atomic.bind fun _ _ v _ _ h => Or.inl ⟨hx.gives h, hf v⟩

theorem Atomic.map {x : Change σ α} (hx : x.Atomic) (f : α → β) : (f <$> x).Atomic := by
  rw [map_eq_pure_bind]
  exact hx.bind fun _ _ v s₁ _ _ => Or.inr fun _ _ _ _ h => by cases h

theorem sureAt_pure (v : α) : (pure v : Change σ α).SureAt s := by
  intro a e s' a' h
  cases h

theorem sureAt_object : (object : Change σ σ).SureAt s := by
  intro a e s' a' h
  cases h

theorem sureAt_become (t : σ) : (become t).SureAt s := by
  intro a e s' a' h
  cases h

theorem sureAt_note (event : Event) : (liftM (Core.note event) : Change σ Unit).SureAt s := by
  intro a e s' a' h
  cases h

theorem SureAt.bind {x : Change σ α} {f : α → Change σ β} (hx : x.SureAt s)
    (hf : ∀ a v s₁ a₁, x.Gives s a v s₁ a₁ → (f v).SureAt s₁) : (x >>= f).SureAt s := by
  intro a e s' a' h
  rw [result_bind] at h
  cases hr : x.result s a with
  | mk r a₁ =>
    obtain ⟨r | v, s₁⟩ := r
    · exact hx a _ _ _ hr
    · rw [hr] at h
      exact hf a v s₁ a₁ hr _ _ _ _ h

theorem atomic_of_sureAt {x : Change σ α} (h : ∀ s, x.SureAt s) : x.Atomic :=
  fun s a e s' a' hx => absurd hx (h s a e s' a')

theorem atomic_become_pure (t : σ) (v : α) : (become t >>= fun _ => pure v : Change σ α).Atomic :=
  atomic_of_sureAt fun _ => (sureAt_become t).bind fun _ _ _ _ _ => sureAt_pure v

theorem atomic_ite {c : Prop} [Decidable c] {x y : Change σ α} (hx : x.Atomic) (hy : y.Atomic) :
    (if c then x else y).Atomic := by
  split
  · exact hx
  · exact hy

/-- A check that may end the operation does not disturb it. -/
theorem Atomic.unless {c : Prop} [Decidable c] (x : Core Unit) {rest : Change σ α}
    (h : rest.Atomic) : (if c then rest else liftM x >>= fun _ => rest).Atomic :=
  atomic_ite h ((still_liftM x).bind_atomic fun _ => h)

theorem Atomic.when {c : Prop} [Decidable c] (x : Core Unit) {rest : Change σ α}
    (h : rest.Atomic) : (if c then liftM x >>= fun _ => rest else rest).Atomic :=
  atomic_ite ((still_liftM x).bind_atomic fun _ => h) h

theorem sureAt_liftM_ok {x : Except Failure α} {v : α} (h : x = .ok v) :
    (liftM x : Change σ α).SureAt s := by
  subst h
  exact sureAt_pure v

theorem sureAt_ite {c : Prop} [Decidable c] {x y : Change σ α} (hx : x.SureAt s) (hy : y.SureAt s) :
    (if c then x else y).SureAt s := by
  split
  · exact hx
  · exact hy

theorem SureAt.note_after {x : Change σ Unit} (hx : ∀ s, x.SureAt s) (event : Event) :
    (x >>= fun _ => liftM (Core.note event)).Atomic :=
  atomic_of_sureAt fun s => (hx s).bind fun _ _ _ _ _ => sureAt_note event

theorem SureAt.note_before {x : Change σ α} (hx : ∀ s, x.SureAt s) (event : Event) :
    (liftM (Core.note event) >>= fun _ => x).Atomic :=
  atomic_of_sureAt fun _ => (sureAt_note event).bind fun _ _ _ _ _ => hx _

end Change

end DeviceAuth
