import Mathlib.Data.FinEnum
import Mathlib.Data.Finite.Vector
import DeviceAuth.Proofs.Cipher.Cbc

/-!
# Only what was encrypted is decrypted

A block that was encrypted is decrypted to itself. There are finitely many blocks, so that encryption
reaches all of them, and a block that was decrypted is encrypted to itself as well
(`Aes.encrypt_decrypt`). Chaining keeps this, block by block.

For whole messages it makes an equivalence: a string is decrypted to some data exactly when it is that
data encrypted, under either padding (`Cbc.decrypt_eq_ok_iff_encrypt`). Only the empty string stands
apart. It is no ciphertext, although the empty data in whole blocks is encrypted to it.
-/

set_option autoImplicit false

namespace DeviceAuth

/-- Strings of fixed length are finitely many. -/
instance (n : Nat) : Finite (Octets n) :=
  let vector (x : Octets n) : List.Vector UInt8 n := ⟨x.bytes, x.length_eq⟩
  Finite.of_injective vector fun _ _ same => Octets.ext (congrArg Subtype.val same)

/-- **Encryption undoes decryption**, under every key. -/
theorem Aes.encrypt_decrypt (key y : Octets 16) : encrypt key (decrypt key y) = y := by
  have undone : Function.LeftInverse (decrypt key) (encrypt key) := decrypt_encrypt key
  obtain ⟨x, rfl⟩ := Finite.injective_iff_surjective.1 undone.injective y
  rw [decrypt_encrypt]

namespace Cbc

/-! ## Blocks -/

theorem encryptBlocks_decryptBlocks {f g : Octets 16 → Octets 16} (h : ∀ y, f (g y) = y)
    (before : Octets 16) (ys : List (Octets 16)) :
    encryptBlocks f before (decryptBlocks g before ys) = ys := by
  induction ys generalizing before with
  | nil => rfl
  | cons y ys ih => simp [encryptBlocks, decryptBlocks, h, Octets.xor_xor_cancel, ih]

theorem encryptWhole_decryptWhole {key iv : Octets 16} {data : Bytes} (h : data.length % 16 = 0) :
    encryptWhole key iv (decryptWhole key iv data) = data := by
  have count : (decryptWhole key iv data).length / 16
      = (decryptBlocks (Aes.decrypt key) iv (blocks (data.length / 16) data)).length := by
    rw [length_decryptWhole h, length_decryptBlocks, length_blocks]
  unfold encryptWhole
  rw [count]
  unfold decryptWhole
  rw [blocks_joined, encryptBlocks_decryptBlocks (Aes.encrypt_decrypt key),
    joined_blocks (by omega)]

/-! ## Messages -/

variable {key : SymmetricKey} {iv data plain : Bytes}

theorem encrypt_counted (vector : Octets 16) :
    encrypt key vector.bytes plain .counted = .ok (encryptFilled key vector plain) := by
  unfold encrypt
  rw [Octets.ofBytes?_bytes]

theorem encrypt_whole (vector : Octets 16) (whole : plain.length % 16 = 0) :
    encrypt key vector.bytes plain .whole = .ok (encryptWhole key vector plain) := by
  unfold encrypt
  rw [Octets.ofBytes?_bytes]
  exact if_pos whole

theorem decrypt_counted_eq_ok_iff {vector : Octets 16} :
    decrypt key vector.bytes data .counted = .ok plain ↔ data = encryptFilled key vector plain := by
  constructor
  · intro h
    obtain ⟨-, whole, filling⟩ := decrypt_eq_ok_iff.1 h
    rw [encryptFilled, ← filling, encryptWhole_decryptWhole whole]
  · rintro rfl
    exact decrypt_encryptFilled key vector plain

theorem decrypt_whole_eq_ok_iff {vector : Octets 16} :
    decrypt key vector.bytes data .whole = .ok plain ↔
      data ≠ [] ∧ plain.length % 16 = 0 ∧ data = encryptWhole key vector plain := by
  unfold decrypt
  rw [Octets.ofBytes?_bytes]
  constructor
  · intro h
    split at h
    · cases h
    · next aligned =>
      cases h
      have whole : data.length % 16 = 0 := by omega
      have some : data ≠ [] := by
        rintro rfl
        exact aligned (Or.inl rfl)
      exact ⟨some, by rw [length_decryptWhole whole, whole], (encryptWhole_decryptWhole whole).symm⟩
  · rintro ⟨some, whole, rfl⟩
    have length : (encryptWhole key vector plain).length = plain.length := length_encryptWhole whole
    have aligned : ¬((encryptWhole key vector plain).length = 0
        ∨ (encryptWhole key vector plain).length % 16 ≠ 0) := by
      rw [List.length_eq_zero_iff, length]
      exact not_or.2 ⟨some, not_not.2 whole⟩
    rw [if_neg aligned]
    exact congrArg Except.ok (decryptWhole_encryptWhole whole)

theorem length_of_encrypt_whole {vector : Octets 16}
    (h : encrypt key vector.bytes plain .whole = .ok data) : plain.length % 16 = 0 := by
  unfold encrypt at h
  rw [Octets.ofBytes?_bytes] at h
  dsimp only at h
  split at h
  · next whole => exact whole
  · cases h

/-- **A string is decrypted to some data exactly when it is that data encrypted**, under every key,
vector and padding, the empty string apart. -/
theorem decrypt_eq_ok_iff_encrypt {padding : Padding} :
    decrypt key iv data padding = .ok plain ↔
      data ≠ [] ∧ encrypt key iv plain padding = .ok data := by
  cases found : (Octets.ofBytes? iv : Option (Octets 16)) with
  | none =>
    unfold decrypt encrypt
    rw [found]
    split <;> simp
  | some vector =>
    obtain rfl := Octets.ofBytes?_eq_some_iff.1 found
    cases padding with
    | counted =>
      rw [decrypt_counted_eq_ok_iff, encrypt_counted, Except.ok.injEq, eq_comm (a := data)]
      refine ⟨fun h => ⟨?_, h⟩, And.right⟩
      rintro rfl
      have length := length_encryptFilled key vector plain
      rw [h, List.length_nil] at length
      omega
    | whole =>
      rw [decrypt_whole_eq_ok_iff]
      constructor
      · rintro ⟨some, whole, rfl⟩
        exact ⟨some, encrypt_whole vector whole⟩
      · rintro ⟨some, h⟩
        have whole := length_of_encrypt_whole h
        rw [encrypt_whole vector whole] at h
        exact ⟨some, whole, (Except.ok.inj h).symm⟩

end Cbc

end DeviceAuth
