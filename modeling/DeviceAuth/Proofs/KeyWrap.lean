import DeviceAuth.Proofs.Bytes
import DeviceAuth.Proofs.Cipher.Cbc
import DeviceAuth.Proofs.Effects
import DeviceAuth.Record.Basic

/-!
# What a lock key opens

A wrapped key is opened by the lock it was wrapped under, whatever vector was drawn for it, and so is
one with a second layer on the outside (`StoredKey.opens_protected`).

The converse is where the digest comes in. A wrapping carries a tag, and a lock key that the tag was
not made with is refused, unless the two lock keys happen to give one tag over the same octets. That
case is not a fact one can rule out, so it has a name: `KeyWrap.Collision`. Every statement about
unlock keys that somebody *presents* has it as the one way out, and no statement about the right
unlock keys needs it.
-/

set_option autoImplicit false

namespace DeviceAuth

namespace KeyWrap

/-- The part of a wrapping that its tag is made over. -/
def tagged (wrapped : Bytes) : Bytes := wrapped.take (wrapped.length - 32)

/-- The tag a lock key makes over the tagged part of a wrapping. -/
def tagUnder (lock wrapped : Bytes) : Octets 32 :=
  hmac (keys lock).authentication.bytes (tagged wrapped)

/-- Two different lock keys make one tag over a wrapping. -/
def Collision (lock other wrapped : Bytes) : Prop :=
  lock ≠ other ∧ tagUnder lock wrapped = tagUnder other wrapped

theorem length_enclose (lock : Bytes) (iv : Octets 16) (data : Bytes) :
    (enclose lock iv data).length = 64 + 16 * (data.length / 16) := by
  simp only [enclose, List.length_append, Cbc.length_encryptFilled, Octets.length_eq]
  omega

/-- **A wrapping is opened by its lock key.** -/
theorem reveal_enclose (lock : Bytes) (iv : Octets 16) (data : Bytes) :
    reveal lock (enclose lock iv data) = .ok data := by
  have long : ¬(enclose lock iv data).length < 64 := by
    rw [length_enclose]
    omega
  let sealed := iv.bytes ++ Cbc.encryptFilled (keys lock).encryption iv data
  let tag := hmac (keys lock).authentication.bytes sealed
  have shape : enclose lock iv data = sealed ++ tag.bytes := rfl
  have front : (sealed ++ tag.bytes).take ((sealed ++ tag.bytes).length - 32) = sealed := by
    simp [tag.length_eq]
  have back : (sealed ++ tag.bytes).drop ((sealed ++ tag.bytes).length - 32) = tag.bytes := by
    simp [tag.length_eq]
  have vector : sealed.take 16 = iv.bytes := by simp [sealed, iv.length_eq]
  have rest : sealed.drop 16 = Cbc.encryptFilled (keys lock).encryption iv data := by
    simp [sealed, iv.length_eq]
  unfold reveal
  rw [if_neg long, shape]
  simp only [front, back, vector, rest, tag, Bytes.matching_self, if_true,
    Cbc.decrypt_encryptFilled]

theorem tag_of_reveal {lock wrapped data : Bytes} (h : reveal lock wrapped = .ok data) :
    (tagUnder lock wrapped).bytes = wrapped.drop (wrapped.length - 32) := by
  unfold reveal at h
  split at h
  · cases h
  · dsimp only at h
    split at h
    · exact Bytes.matching_iff.1 ‹_›
    · cases h

/-- Whatever two lock keys open a wrapping, they find the same in it, or collide on it. -/
theorem eq_or_collision {lock other wrapped data found : Bytes} (h : reveal lock wrapped = .ok data)
    (hf : reveal other wrapped = .ok found) : found = data ∨ Collision lock other wrapped := by
  by_cases same : lock = other
  · subst same
    rw [h] at hf
    cases hf
    exact Or.inl rfl
  · refine Or.inr ⟨same, Octets.ext ?_⟩
    rw [tag_of_reveal h, tag_of_reveal hf]

@[simp] theorem gives_wrap {lock data wrapped : Bytes} {a a' : Ambient} :
    (wrap lock data).Gives a wrapped a' ↔
      wrapped = enclose lock (a.entropy.draw 16).1 data
        ∧ a' = { a with entropy := (a.entropy.draw 16).2 } := by
  unfold wrap
  simp [and_assoc, and_comm]

theorem sure_wrap (lock data : Bytes) : (wrap lock data).Sure :=
  (Core.sure_draw 16).bind fun _ => Core.sure_pure _

@[simp] theorem gives_unwrapKey {lock wrapped : Bytes} {key : SymmetricKey} {a a' : Ambient} :
    (unwrapKey lock wrapped).Gives a key a' ↔ reveal lock wrapped = .ok key.bytes ∧ a' = a := by
  unfold unwrapKey
  simp only [Core.gives_bind, Core.gives_liftM_reasoned]
  constructor
  · rintro ⟨plain, _, ⟨hp, rfl⟩, h⟩
    cases ho : (Octets.ofBytes? plain : Option (Octets 16)) with
    | none => simp [ho] at h
    | some found =>
      simp only [ho, Core.gives_pure] at h
      obtain ⟨rfl, rfl⟩ := h
      rw [hp, Octets.ofBytes?_eq_some_iff.1 ho]
      exact ⟨rfl, rfl⟩
  · rintro ⟨hr, rfl⟩
    exact ⟨key.bytes, _, ⟨hr, rfl⟩, by simp⟩

end KeyWrap

namespace StoredKey

variable {stored : StoredKey} {key lock other : SymmetricKey} {external : Option SymmetricKey}
  {a a' : Ambient}

/-- The lock key reaches the key, through the external layer if there is one. -/
def Opens (stored : StoredKey) (lock : SymmetricKey) (external : Option SymmetricKey)
    (key : SymmetricKey) : Prop :=
  ∃ wrapped, stored.inner external = .ok wrapped ∧ KeyWrap.reveal lock.bytes wrapped = .ok key.bytes

/-- Two different lock keys make one tag over what is stored. -/
def Collision (stored : StoredKey) (lock other : SymmetricKey) (external : Option SymmetricKey) :
    Prop :=
  ∃ wrapped, stored.inner external = .ok wrapped
    ∧ KeyWrap.Collision lock.bytes other.bytes wrapped

@[simp] theorem gives_reveal :
    (stored.reveal lock external).Gives a key a' ↔ stored.Opens lock external key ∧ a' = a := by
  unfold reveal Opens
  simp only [Core.gives_bind, Core.gives_liftM_reasoned, KeyWrap.gives_unwrapKey]
  constructor
  · rintro ⟨wrapped, _, ⟨hw, rfl⟩, hr, rfl⟩
    exact ⟨⟨wrapped, hw, hr⟩, rfl⟩
  · rintro ⟨⟨wrapped, hw, hr⟩, rfl⟩
    exact ⟨wrapped, _, ⟨hw, rfl⟩, hr, rfl⟩

/-- The wrapping of a key with the vectors of both layers given. -/
def enclosed (key lock : SymmetricKey) (external : Option SymmetricKey) (inner outer : Octets 16) :
    StoredKey :=
  match external with
  | some outside => ⟨KeyWrap.enclose outside.bytes outer (KeyWrap.enclose lock.bytes inner key.bytes)⟩
  | none => ⟨KeyWrap.enclose lock.bytes inner key.bytes⟩

theorem enclosed_of_protect (h : (protect key lock external).Gives a stored a') :
    ∃ inner outer, stored = enclosed key lock external inner outer := by
  unfold protect at h
  cases external with
  | none =>
    simp only [Core.gives_bind, KeyWrap.gives_wrap, Core.gives_pure] at h
    obtain ⟨wrapped, _, ⟨rfl, -⟩, rfl, -⟩ := h
    exact ⟨_, Octets.zero, rfl⟩
  | some outside =>
    simp only [Core.gives_bind, KeyWrap.gives_wrap, Core.gives_pure] at h
    obtain ⟨wrapped, _, ⟨rfl, -⟩, _, _, ⟨rfl, -⟩, rfl, -⟩ := h
    exact ⟨_, _, rfl⟩

theorem sure_protect (key lock : SymmetricKey) (external : Option SymmetricKey) :
    (protect key lock external).Sure := by
  refine (KeyWrap.sure_wrap _ _).bind fun inner => ?_
  cases external with
  | none => exact Core.sure_pure _
  | some outside => exact (KeyWrap.sure_wrap _ _).bind fun _ => Core.sure_pure _

theorem opens_enclosed (key lock : SymmetricKey) (external : Option SymmetricKey)
    (inner outer : Octets 16) :
    (enclosed key lock external inner outer).Opens lock external key := by
  cases external with
  | none => exact ⟨_, rfl, KeyWrap.reveal_enclose _ _ _⟩
  | some outside =>
    exact ⟨KeyWrap.enclose lock.bytes inner key.bytes, KeyWrap.reveal_enclose _ _ _,
      KeyWrap.reveal_enclose _ _ _⟩

/-- **What was stored is opened** by the lock key and external key it was stored under. -/
theorem opens_protected (h : (protect key lock external).Gives a stored a') :
    stored.Opens lock external key := by
  obtain ⟨inner, outer, rfl⟩ := enclosed_of_protect h
  exact opens_enclosed key lock external inner outer

theorem length_protected (h : (protect key lock external).Gives a stored a') :
    stored.bytes.length ≤ 144 := by
  obtain ⟨inner, outer, rfl⟩ := enclosed_of_protect h
  cases external <;> simp [enclosed, KeyWrap.length_enclose, Octets.length_eq]

/-- A lock opens one key. -/
theorem Opens.unique {found : SymmetricKey} (h : stored.Opens lock external key)
    (hf : stored.Opens lock external found) : found = key := by
  obtain ⟨wrapped, hw, hr⟩ := h
  obtain ⟨wrapped', hw', hr'⟩ := hf
  obtain rfl := Except.ok.inj (hw.symm.trans hw')
  exact Octets.ext (Except.ok.inj (hr'.symm.trans hr))

/-- Whoever opens a stored key finds the key in it, or collides with its lock. -/
theorem Opens.eq_or_collision {found : SymmetricKey} (h : stored.Opens lock external key)
    (hf : stored.Opens other external found) :
    found = key ∨ stored.Collision lock other external := by
  obtain ⟨wrapped, hw, hr⟩ := h
  obtain ⟨wrapped', hw', hr'⟩ := hf
  obtain rfl : wrapped = wrapped' := by
    rw [hw] at hw'
    exact Except.ok.inj hw'
  rcases KeyWrap.eq_or_collision hr hr' with same | clash
  · exact Or.inl (Octets.ext same)
  · exact Or.inr ⟨wrapped, hw, clash⟩

end StoredKey

end DeviceAuth
