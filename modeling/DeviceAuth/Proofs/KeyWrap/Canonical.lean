import DeviceAuth.Proofs.Cipher.Inverse
import DeviceAuth.Proofs.KeyWrap

/-!
# Only a wrapping is unwrapped

A lock key opens what was wrapped under it. Here is the converse: what a lock key opens was wrapped
under it, from the data that is found inside and with the vector it begins with (`KeyWrap.reveal_eq_ok_iff`).
The tag fixes the last 32 octets, the cipher everything between vector and tag, and the filling leaves
no choice of how the data ends.

A stored key has one layer or two. Each of them is a wrapping, so that a stored key is reached exactly if
`StoredKey.protect` can have stored it so, and every other string is refused for one and the same reason
as far as the caller can see.
-/

set_option autoImplicit false

namespace DeviceAuth

/-- A stream that begins with some octets draws them first. -/
theorem Entropy.draw_append {n : Nat} (x : Octets n) (rest : Bytes) (state : UInt64) :
    draw n ⟨x.bytes ++ rest, state⟩ = (x, ⟨rest, state⟩) := by
  have count : (n - (x.bytes ++ rest).length + 7) / 8 = 0 := by
    rw [List.length_append, x.length_eq]
    omega
  have fresh : generate ((n - (x.bytes ++ rest).length + 7) / 8) state = ([], state) := by
    rw [count, generate]
  refine Prod.ext (Octets.ext ?_) ?_
  · simp only [draw, fresh, List.append_nil, List.take_left' x.length_eq]
  · simp only [draw, fresh, List.append_nil, List.drop_left' x.length_eq]

namespace KeyWrap

variable {lock wrapped data : Bytes} {a : Ambient}

/-- A wrapping begins with its vector. -/
theorem take_enclose (lock : Bytes) (iv : Octets 16) (data : Bytes) :
    (enclose lock iv data).take 16 = iv.bytes := by
  unfold enclose
  dsimp only
  rw [List.append_assoc, List.take_left' iv.length_eq]

/-- A string is wrapped under a lock key if it ends with its tag and the rest is a vector and what
decrypts under it. -/
theorem exists_vector_of_reveal (h : reveal lock wrapped = .ok data) :
    ∃ iv : Octets 16, wrapped = enclose lock iv data := by
  have tag := tag_of_reveal h
  unfold reveal at h
  split at h
  · cases h
  · next long =>
    dsimp only at h
    split at h
    · -- The vector is what comes first, since otherwise it would not be one.
      let iv : Octets 16 := ⟨(tagged wrapped).take 16, by
        rw [tagged, List.take_take, List.length_take]
        omega⟩
      have sealed : (tagged wrapped).drop 16
          = Cbc.encryptFilled (keys lock).encryption iv data :=
        Cbc.decrypt_counted_eq_ok_iff.1 h
      have front : tagged wrapped = iv.bytes ++ Cbc.encryptFilled (keys lock).encryption iv data := by
        rw [← sealed, List.take_append_drop]
      refine ⟨iv, ?_⟩
      calc wrapped = tagged wrapped ++ wrapped.drop (wrapped.length - 32) :=
            (List.take_append_drop _ _).symm
        _ = tagged wrapped ++ (tagUnder lock wrapped).bytes := by rw [tag]
        _ = enclose lock iv data := by
          unfold tagUnder
          rw [front]
          rfl
    · cases h

/-- **What a lock key opens is a wrapping under it**, and nothing else is. -/
theorem reveal_eq_ok_iff :
    reveal lock wrapped = .ok data ↔ ∃ iv : Octets 16, wrapped = enclose lock iv data :=
  ⟨exists_vector_of_reveal, fun ⟨iv, same⟩ => same ▸ reveal_enclose lock iv data⟩

/-- Some run of `wrap` makes every wrapping, and no run makes anything else. -/
theorem exists_gives_wrap_iff :
    (∃ a a', (wrap lock data).Gives a wrapped a') ↔
      ∃ iv : Octets 16, wrapped = enclose lock iv data := by
  constructor
  · rintro ⟨a, a', ran⟩
    exact ⟨_, (gives_wrap.1 ran).1⟩
  · rintro ⟨iv, rfl⟩
    have drawn := congrArg Prod.fst (Entropy.draw_append iv [] 0)
    exact ⟨⟨⟨iv.bytes ++ [], 0⟩, 0, []⟩, _, gives_wrap.2 ⟨by rw [drawn], rfl⟩⟩

end KeyWrap

namespace StoredKey

variable {stored : StoredKey} {key lock : SymmetricKey} {external : Option SymmetricKey}

/-- **A stored key is reached** exactly if it is stored as a wrapping, layer by layer. -/
theorem opens_iff_enclosed :
    stored.Opens lock external key ↔
      ∃ inner outer : Octets 16, stored = enclosed key lock external inner outer := by
  constructor
  · rintro ⟨wrapped, outside, inside⟩
    obtain ⟨inner, rfl⟩ := KeyWrap.exists_vector_of_reveal inside
    cases external with
    | none => exact ⟨inner, .zero, congrArg mk (Except.ok.inj outside)⟩
    | some external =>
      obtain ⟨outer, same⟩ := KeyWrap.exists_vector_of_reveal outside
      exact ⟨inner, outer, congrArg mk same⟩
  · rintro ⟨inner, outer, rfl⟩
    exact opens_enclosed key lock external inner outer

theorem exists_gives_protect_iff :
    (∃ a a', (protect key lock external).Gives a stored a') ↔
      ∃ inner outer : Octets 16, stored = enclosed key lock external inner outer := by
  constructor
  · rintro ⟨a, a', ran⟩
    exact enclosed_of_protect ran
  · rintro ⟨inner, outer, rfl⟩
    -- The inner layer draws first.
    have first := Entropy.draw_append inner outer.bytes 0
    have second := Entropy.draw_append outer [] 0
    rw [List.append_nil] at second
    refine ⟨⟨⟨inner.bytes ++ outer.bytes, 0⟩, 0, []⟩, ?_⟩
    unfold protect
    cases external with
    | none => simp [KeyWrap.gives_wrap, first, enclosed]
    | some external => simp [KeyWrap.gives_wrap, first, second, enclosed]

theorem refuses_reveal (h : ∀ key, ¬stored.Opens lock external key) :
    (stored.reveal lock external).Refuses := by
  unfold reveal
  cases outside : stored.inner external with
  | error why => exact (Core.refuses_refuse why).bind _
  | ok wrapped =>
    refine Core.Returns.bind_refuses (Core.returns_reasoned.2 rfl) ?_
    unfold KeyWrap.unwrapKey
    cases inside : KeyWrap.reveal lock.bytes wrapped with
    | error why => exact (Core.refuses_refuse why).bind _
    | ok plain =>
      refine Core.Returns.bind_refuses (Core.returns_reasoned.2 rfl) ?_
      cases found : (Octets.ofBytes? plain : Option (Octets 16)) with
      | none => exact fun a => ⟨a, rfl⟩
      | some key =>
        obtain rfl := Octets.ofBytes?_eq_some_iff.1 found
        exact absurd ⟨wrapped, outside, inside⟩ (h key)

end StoredKey

namespace KeyWrap

/-- **Unwrapping accepts exactly what wrapping makes.** A lock key of any length opens a string to some
data exactly if the string is what wrapping that data makes when its vector is drawn as the first sixteen
octets of it. Every other string is refused, however long it is. So a string settles the data in it, and
data of every length comes back. A stored key, under one lock or under two, is reached exactly if storing
it makes what is stored, and is refused otherwise. -/
theorem unwraps_only_wrappings :
    (∀ lock wrapped data : Bytes,
      (liftM (reveal lock wrapped) : Core Bytes).Returns data ↔
        ∃ a a', (a.entropy.draw 16).1.bytes = wrapped.take 16 ∧ (wrap lock data).Gives a wrapped a')
    ∧ (∀ lock wrapped : Bytes, (∀ data a a', ¬(wrap lock data).Gives a wrapped a') →
      (liftM (reveal lock wrapped) : Core Bytes).Refuses)
    ∧ (∀ (lock wrapped data other : Bytes) (a a' b b' : Ambient),
      (wrap lock data).Gives a wrapped a' → (wrap lock other).Gives b wrapped b' → other = data)
    ∧ (∀ (lock data : Bytes) (a : Ambient), ∃ wrapped a', (wrap lock data).Gives a wrapped a'
      ∧ (liftM (reveal lock wrapped) : Core Bytes).Returns data)
    ∧ (∀ (stored : StoredKey) (key lock : SymmetricKey) (external : Option SymmetricKey),
      (stored.reveal lock external).Returns key ↔
        ∃ a a', (StoredKey.protect key lock external).Gives a stored a')
    ∧ ∀ (stored : StoredKey) (lock : SymmetricKey) (external : Option SymmetricKey),
      (∀ key a a', ¬(StoredKey.protect key lock external).Gives a stored a') →
      (stored.reveal lock external).Refuses := by
  refine ⟨?_, ?_, ?_, ?_, ?_, ?_⟩
  · intro lock wrapped data
    rw [Core.returns_reasoned, reveal_eq_ok_iff, ← exists_gives_wrap_iff]
    constructor
    · rintro ⟨a, a', ran⟩
      refine ⟨a, a', ?_, ran⟩
      rw [(gives_wrap.1 ran).1, take_enclose]
    · rintro ⟨a, a', -, ran⟩
      exact ⟨a, a', ran⟩
  · intro lock wrapped other
    refine Core.refuses_reasoned fun data opened => ?_
    obtain ⟨a, a', ran⟩ := exists_gives_wrap_iff.2 (reveal_eq_ok_iff.1 opened)
    exact other data a a' ran
  · intro lock wrapped data other a a' b b' ran ran'
    have opened : reveal lock wrapped = .ok data := reveal_eq_ok_iff.2 ⟨_, (gives_wrap.1 ran).1⟩
    have opened' : reveal lock wrapped = .ok other := reveal_eq_ok_iff.2 ⟨_, (gives_wrap.1 ran').1⟩
    exact Except.ok.inj (opened'.symm.trans opened)
  · intro lock data a
    exact ⟨_, _, gives_wrap.2 ⟨rfl, rfl⟩, Core.returns_reasoned.2 (reveal_enclose lock _ data)⟩
  · intro stored key lock external
    rw [StoredKey.exists_gives_protect_iff, ← StoredKey.opens_iff_enclosed]
    exact ⟨fun h => (StoredKey.gives_reveal.1 (h ⟨⟨[], 0⟩, 0, []⟩)).1,
      fun h _ => StoredKey.gives_reveal.2 ⟨h, rfl⟩⟩
  · intro stored lock external other
    refine StoredKey.refuses_reveal fun key opened => ?_
    obtain ⟨a, a', ran⟩ :=
      StoredKey.exists_gives_protect_iff.2 (StoredKey.opens_iff_enclosed.1 opened)
    exact other key a a' ran

/-- No data at all, wrapped and unwrapped again; with an octet less the wrapping is refused. -/
theorem unwraps_of_empty :
    ∃ (wrapped : Bytes) (a' : Ambient), (wrap [1] []).Gives ⟨⟨[], 7⟩, 0, []⟩ wrapped a'
      ∧ (liftM (reveal [1] wrapped) : Core Bytes).Returns []
      ∧ (liftM (reveal [1] (wrapped.drop 1)) : Core Bytes).Refuses
      ∧ (StoredKey.reveal ⟨wrapped.drop 1⟩ .zero none).Refuses := by
  obtain ⟨-, refuses, -, comes, -, unreached⟩ := unwraps_only_wrappings
  obtain ⟨wrapped, a', ran, opened⟩ := comes [1] [] ⟨⟨[], 7⟩, 0, []⟩
  have short : (wrapped.drop 1).length = 63 := by
    rw [List.length_drop, (gives_wrap.1 ran).1, length_enclose]
    rfl
  refine ⟨wrapped, a', ran, opened, refuses [1] _ ?_, unreached _ _ _ ?_⟩
  · intro data a a' ran
    rw [(gives_wrap.1 ran).1, length_enclose] at short
    omega
  · intro key a a' ran
    obtain ⟨inner, outer, same⟩ := StoredKey.enclosed_of_protect ran
    have shape : wrapped.drop 1 = enclose _ inner key.bytes := congrArg StoredKey.bytes same
    rw [shape, length_enclose] at short
    omega

end KeyWrap

end DeviceAuth
