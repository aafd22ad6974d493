import DeviceAuth.Proofs.Cipher.Inverse
import DeviceAuth.Proofs.Effects

/-!
# Messages and their ciphertexts

Which messages are encrypted, to what length, and which strings are decrypted. Decryption is the inverse
of encryption (`Cbc.decrypt_eq_ok_iff_encrypt`), so each answer about one is an answer about the other. What
is left is the boundary: a vector that is no block, a string that is not whole blocks, and decrypted blocks
that do not end as filled data does. How filled data ends is said by a relation (`Cbc.FillsUp`) that does
not know how much filling there should have been; on whole blocks there is only one possible amount.
-/

set_option autoImplicit false

namespace DeviceAuth.Cbc

variable {key : SymmetricKey} {iv data plain blocks : Bytes} {padding : Padding}

/-! ## Filling -/

/-- The blocks are the data and at least one octet more, at most a block of them, and each of these tells
how many they are. -/
def FillsUp (plain blocks : Bytes) : Prop :=
  ∃ count, 1 ≤ count ∧ count ≤ 16 ∧ blocks = plain ++ List.replicate count (UInt8.ofNat count)

theorem fillsUp_filled (plain : Bytes) : FillsUp plain (filled plain) :=
  ⟨fillCount plain.length, by unfold fillCount; omega, by unfold fillCount; omega, rfl⟩

/-- Only one amount brings data to whole blocks. -/
theorem fillsUp_iff (whole : blocks.length % 16 = 0) : FillsUp plain blocks ↔ blocks = filled plain := by
  constructor
  · rintro ⟨count, pos, le, rfl⟩
    rw [List.length_append, List.length_replicate] at whole
    have own : count = fillCount plain.length := by
      unfold fillCount
      omega
    rw [filled, ← own]
  · rintro rfl
    exact fillsUp_filled plain

/-! ## Vectors -/

theorem exists_octets (h : iv.length = 16) : ∃ vector : Octets 16, iv = vector.bytes := ⟨⟨iv, h⟩, rfl⟩

theorem length_of_encrypt (h : encrypt key iv plain padding = .ok data) : iv.length = 16 := by
  unfold encrypt at h
  split at h
  · cases h
  · next vector found =>
    rw [Octets.ofBytes?_eq_some_iff.1 found, vector.length_eq]

/-! ## Messages -/

/-- **Data of every length is filled up and encrypted**, to the next whole number of blocks. -/
theorem exists_encrypt_counted (key : SymmetricKey) (plain : Bytes) (h : iv.length = 16) :
    ∃ data, encrypt key iv plain .counted = .ok data ∧ data.length % 16 = 0
      ∧ plain.length < data.length ∧ data.length ≤ plain.length + 16 := by
  obtain ⟨vector, rfl⟩ := exists_octets h
  have length := length_encryptFilled key vector plain
  exact ⟨_, encrypt_counted vector, by omega, by omega, by omega⟩

theorem length_of_encrypt_counted (h : encrypt key iv plain .counted = .ok data) :
    plain.length < data.length := by
  obtain ⟨own, same, -, more, -⟩ := exists_encrypt_counted key plain (length_of_encrypt h)
  cases h.symm.trans same
  exact more

/-- **Whole blocks are encrypted to as many**, and other data is not encrypted as whole blocks. -/
theorem exists_encrypt_whole_iff (key : SymmetricKey) (plain : Bytes) (h : iv.length = 16) :
    (∃ data, encrypt key iv plain .whole = .ok data ∧ data.length = plain.length)
      ↔ plain.length % 16 = 0 := by
  obtain ⟨vector, rfl⟩ := exists_octets h
  constructor
  · rintro ⟨data, ran, -⟩
    exact length_of_encrypt_whole ran
  · intro whole
    exact ⟨_, encrypt_whole vector whole, length_encryptWhole whole⟩

theorem length_eq_of_encrypt_whole (h : encrypt key iv plain .whole = .ok data) :
    data.length = plain.length := by
  have own := length_of_encrypt h
  obtain ⟨vector, rfl⟩ := exists_octets own
  obtain ⟨data', same, length⟩ := (exists_encrypt_whole_iff key plain own).2 (length_of_encrypt_whole h)
  cases h.symm.trans same
  exact length

/-- **The empty message as whole blocks** is all that is encrypted to nothing. -/
theorem eq_nil_iff_of_encrypt (h : encrypt key iv plain padding = .ok data) :
    data = [] ↔ padding = .whole ∧ plain = [] := by
  cases padding with
  | counted =>
    have more := length_of_encrypt_counted h
    rw [← List.length_eq_zero_iff]
    simp only [reduceCtorEq, false_and, iff_false]
    omega
  | whole => simp [← List.length_eq_zero_iff, length_eq_of_encrypt_whole h]

/-- A message that is encrypted to nothing is the only one that does not come back. -/
theorem refuses_decrypt_iff_of_encrypt (h : encrypt key iv plain padding = .ok data) :
    (liftM (decrypt key iv data padding) : Core Bytes).Refuses ↔ padding = .whole ∧ plain = [] := by
  rw [← eq_nil_iff_of_encrypt h, Core.refuses_reasoned_iff]
  constructor
  · intro refused
    by_contra some
    exact refused plain (decrypt_eq_ok_iff_encrypt.2 ⟨some, h⟩)
  · rintro rfl other opened
    exact (decrypt_eq_ok_iff_encrypt.1 opened).1 rfl

/-! ## Ciphertexts -/

/-- What is decrypted is whole blocks, at least one, under a vector of one block. -/
theorem lengths_of_decrypt (h : decrypt key iv data padding = .ok plain) :
    iv.length = 16 ∧ data ≠ [] ∧ data.length % 16 = 0 := by
  obtain ⟨some, made⟩ := decrypt_eq_ok_iff_encrypt.1 h
  have own := length_of_encrypt made
  refine ⟨own, some, ?_⟩
  cases padding with
  | counted =>
    obtain ⟨data', same, whole, -⟩ := exists_encrypt_counted key plain own
    cases made.symm.trans same
    exact whole
  | whole =>
    obtain ⟨vector, rfl⟩ := exists_octets own
    rw [length_eq_of_encrypt_whole made, length_of_encrypt_whole made]

/-- **The filling is checked**: data comes of decrypted blocks exactly if they are that data filled up. -/
theorem decrypt_counted_iff_fillsUp (h : decrypt key iv data .whole = .ok blocks) :
    decrypt key iv data .counted = .ok plain ↔ FillsUp plain blocks := by
  obtain ⟨own, some, aligned⟩ := lengths_of_decrypt h
  obtain ⟨vector, rfl⟩ := exists_octets own
  obtain ⟨-, whole, rfl⟩ := decrypt_whole_eq_ok_iff.1 h
  rw [decrypt_eq_ok_iff, decryptWhole_encryptWhole whole, fillsUp_iff whole]
  exact ⟨fun ⟨_, _, same⟩ => same, fun same => ⟨some, aligned, same⟩⟩

/-- **Encryption and decryption are exact inverses**, under every key, vector and padding. Data of any
length is filled up to the next whole number of blocks above it; as whole blocks exactly aligned data is
encrypted, to the same length, and the empty message, which is encrypted to nothing, is the only one that
is not decrypted again. A vector of another length, a string that is not whole blocks or none, and blocks
that are not filled up are refused, all for a cryptographic reason. -/
theorem encryption_exactly_inverted (key : SymmetricKey) :
    (∀ (iv data plain : Bytes) (padding : Padding), data ≠ [] →
      (decrypt key iv data padding = .ok plain ↔ encrypt key iv plain padding = .ok data))
    ∧ (∀ iv plain : Bytes, iv.length = 16 →
      ∃ data, encrypt key iv plain .counted = .ok data ∧ data.length % 16 = 0
        ∧ plain.length < data.length ∧ data.length ≤ plain.length + 16)
    ∧ (∀ iv plain : Bytes, iv.length = 16 → plain.length % 16 = 0 →
      ∃ data, encrypt key iv plain .whole = .ok data ∧ data.length = plain.length)
    ∧ (∀ iv plain : Bytes, plain.length % 16 ≠ 0 →
      (liftM (encrypt key iv plain .whole) : Core Bytes).Refuses)
    ∧ (∀ iv : Bytes, iv.length = 16 → encrypt key iv [] .whole = .ok [])
    ∧ (∀ (iv plain data : Bytes) (padding : Padding), encrypt key iv plain padding = .ok data →
      ((liftM (decrypt key iv data padding) : Core Bytes).Refuses ↔ padding = .whole ∧ plain = []))
    ∧ (∀ (iv data : Bytes) (padding : Padding), iv.length ≠ 16 →
      (liftM (encrypt key iv data padding) : Core Bytes).Refuses
        ∧ (liftM (decrypt key iv data padding) : Core Bytes).Refuses)
    ∧ (∀ (iv data : Bytes) (padding : Padding), data = [] ∨ data.length % 16 ≠ 0 →
      (liftM (decrypt key iv data padding) : Core Bytes).Refuses)
    ∧ ∀ iv data blocks : Bytes, decrypt key iv data .whole = .ok blocks →
      (∀ plain, decrypt key iv data .counted = .ok plain ↔ FillsUp plain blocks)
        ∧ ((∀ plain, ¬ FillsUp plain blocks) →
          (liftM (decrypt key iv data .counted) : Core Bytes).Refuses) := by
  refine ⟨?_, fun _ plain => exists_encrypt_counted key plain,
    fun _ plain own => (exists_encrypt_whole_iff key plain own).2, ?_, ?_,
    fun _ _ _ _ => refuses_decrypt_iff_of_encrypt, ?_, ?_, ?_⟩
  · intro iv data plain padding some
    rw [decrypt_eq_ok_iff_encrypt]
    exact and_iff_right some
  · intro iv plain cut
    refine Core.refuses_reasoned fun data ran => ?_
    obtain ⟨vector, rfl⟩ := exists_octets (length_of_encrypt ran)
    exact cut (length_of_encrypt_whole ran)
  · intro iv own
    obtain ⟨data, ran, length⟩ := (exists_encrypt_whole_iff key [] own).2 rfl
    rwa [List.eq_nil_of_length_eq_zero length] at ran
  · intro iv data padding other
    exact ⟨Core.refuses_reasoned fun _ ran => other (length_of_encrypt ran),
      Core.refuses_reasoned fun _ opened => other (lengths_of_decrypt opened).1⟩
  · intro iv data padding cut
    refine Core.refuses_reasoned fun _ opened => ?_
    obtain ⟨-, some, aligned⟩ := lengths_of_decrypt opened
    exact cut.elim some (absurd aligned)
  · intro iv data blocks opened
    refine ⟨fun _ => decrypt_counted_iff_fillsUp opened, fun none => ?_⟩
    exact Core.refuses_reasoned fun plain found =>
      none plain ((decrypt_counted_iff_fillsUp opened).1 found)

/-- A message of one block takes two once it is filled up, and comes back. The same block of zeros as
whole blocks does not end with a count of octets; and half a vector, half a block and nothing at all
are refused. -/
theorem inverted_at_the_border :
    let key : SymmetricKey := Octets.zero
    let iv : Bytes := List.replicate 16 0
    let block : Bytes := List.replicate 16 0
    (∃ data, encrypt key iv block .counted = .ok data ∧ data.length = 32
      ∧ decrypt key iv data .counted = .ok block)
    ∧ (∃ data, encrypt key iv block .whole = .ok data ∧ decrypt key iv data .whole = .ok block
      ∧ (liftM (decrypt key iv data .counted) : Core Bytes).Refuses)
    ∧ encrypt key iv [] .whole = .ok []
    ∧ (liftM (decrypt key iv [] .whole) : Core Bytes).Refuses
    ∧ (liftM (encrypt key iv (block.take 8) .whole) : Core Bytes).Refuses
    ∧ (liftM (encrypt key (iv.take 8) block .counted) : Core Bytes).Refuses := by
  intro key iv block
  obtain ⟨inverse, fills, keeps, unaligned, empty, returns, vectors, cuts, checked⟩ :=
    encryption_exactly_inverted key
  obtain ⟨two, filledTwo, whole, more, atMost⟩ := fills iv block rfl
  have blockLength : block.length = 16 := rfl
  have blockWhole : block.length % 16 = 0 := by omega
  obtain ⟨one, made, length⟩ := keeps iv block rfl blockWhole
  have someTwo : two ≠ [] := List.ne_nil_of_length_pos (by omega)
  have someOne : one ≠ [] := List.ne_nil_of_length_pos (by omega)
  have opened := (inverse iv one block .whole someOne).2 made
  have countless : ∀ plain, ¬ FillsUp plain block := by
    intro plain ends
    have stripped := stripped?_filled plain
    rw [← (fillsUp_iff blockWhole).1 ends] at stripped
    cases stripped
  exact ⟨⟨two, filledTwo, by omega, (inverse iv two block .counted someTwo).2 filledTwo⟩,
    ⟨one, made, opened, (checked iv one block opened).2 countless⟩, empty iv rfl,
    (returns iv [] [] .whole (empty iv rfl)).2 ⟨rfl, rfl⟩, unaligned iv _ (by decide),
    (vectors (iv.take 8) block .counted (by decide)).1⟩

end DeviceAuth.Cbc
