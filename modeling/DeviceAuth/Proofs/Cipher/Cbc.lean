import DeviceAuth.Cipher.Cbc
import DeviceAuth.Proofs.Cipher.Aes

/-!
# Chained messages are decrypted to what was encrypted

Chaining is undone block by block: what is combined with a block before it is encrypted is the very
block that decryption combines with it afterwards. The rest is about lengths. Cutting a string into
blocks loses nothing when the string is whole blocks (`joined_blocks`), and the octets that fill a
string up tell their own number, so that exactly they are stripped again (`stripped?_filled`). Nothing
else is taken for an ending, so what decryption accepts can be said exactly (`decrypt_eq_ok_iff`).
-/

set_option autoImplicit false

namespace DeviceAuth

/-! ## Octets -/

theorem Octets.xor_xor_cancel {n : Nat} (x k : Octets n) : (x.xor k).xor k = x := by
  apply Octets.ext
  have h : x.bytes.length = k.bytes.length := x.length_eq.trans k.length_eq.symm
  show List.zipWith (· ^^^ ·) (List.zipWith (· ^^^ ·) x.bytes k.bytes) k.bytes = x.bytes
  generalize x.bytes = xs at h
  generalize k.bytes = ks at h
  induction xs generalizing ks with
  | nil => rfl
  | cons x xs ih =>
    cases ks with
    | nil => simp at h
    | cons k ks =>
      simp only [List.zipWith_cons_cons, UInt8.xor_assoc, UInt8.xor_self, UInt8.xor_zero,
        ih ks (Nat.succ.inj h)]

theorem Octets.fitted_bytes {n : Nat} (x : Octets n) : Octets.fitted x.bytes = x := by
  apply Octets.ext
  simp [Octets.fitted, x.length_eq, List.take_of_length_le]

namespace Cbc

/-! ## Blocks -/

theorem decryptBlocks_encryptBlocks {f g : Octets 16 → Octets 16} (h : ∀ x, g (f x) = x)
    (before : Octets 16) (xs : List (Octets 16)) :
    decryptBlocks g before (encryptBlocks f before xs) = xs := by
  induction xs generalizing before with
  | nil => rfl
  | cons x xs ih => simp [encryptBlocks, decryptBlocks, h, Octets.xor_xor_cancel, ih]

@[simp] theorem length_encryptBlocks (f : Octets 16 → Octets 16) (before : Octets 16)
    (xs : List (Octets 16)) : (encryptBlocks f before xs).length = xs.length := by
  induction xs generalizing before with
  | nil => rfl
  | cons x xs ih => simp [encryptBlocks, ih]

@[simp] theorem length_blocks (count : Nat) (data : Bytes) :
    (blocks count data).length = count := by
  induction count generalizing data with
  | zero => rfl
  | succ count ih => simp [blocks, ih]

@[simp] theorem length_joined (xs : List (Octets 16)) : (joined xs).length = 16 * xs.length := by
  induction xs with
  | nil => rfl
  | cons x xs ih =>
    show (x.bytes ++ joined xs).length = 16 * (xs.length + 1)
    rw [List.length_append, x.length_eq, ih]
    omega

theorem blocks_joined (xs : List (Octets 16)) : blocks xs.length (joined xs) = xs := by
  induction xs with
  | nil => rfl
  | cons x xs ih =>
    have front : (x.bytes ++ joined xs).take 16 = x.bytes := by
      simp [x.length_eq]
    have back : (x.bytes ++ joined xs).drop 16 = joined xs := by
      simp [x.length_eq]
    show Octets.fitted ((x.bytes ++ joined xs).take 16)
      :: blocks xs.length ((x.bytes ++ joined xs).drop 16) = x :: xs
    rw [front, back, Octets.fitted_bytes, ih]

theorem joined_blocks {count : Nat} {data : Bytes} (h : data.length = 16 * count) :
    joined (blocks count data) = data := by
  induction count generalizing data with
  | zero =>
    have : data = [] := List.eq_nil_of_length_eq_zero (by omega)
    rw [this]
    rfl
  | succ count ih =>
    have front : (Octets.fitted (data.take 16) : Octets 16).bytes = data.take 16 := by
      have : 16 ≤ data.length := by omega
      simp [Octets.fitted, Nat.min_eq_left this, List.take_take]
    show (Octets.fitted (data.take 16) : Octets 16).bytes ++ joined (blocks count (data.drop 16))
      = data
    rw [front, ih (by rw [List.length_drop]; omega), List.take_append_drop]

theorem blocks_append {count more : Nat} {data rest : Bytes} (h : data.length = 16 * count) :
    blocks (count + more) (data ++ rest) = blocks count data ++ blocks more rest := by
  induction count generalizing data with
  | zero =>
    have none : data = [] := List.eq_nil_of_length_eq_zero (by omega)
    simp [none, blocks]
  | succ count ih =>
    have long : 16 ≤ data.length := by omega
    have fewer : (data.drop 16).length = 16 * count := by
      rw [List.length_drop]
      omega
    rw [Nat.succ_add, blocks, blocks, List.take_append_of_le_length long,
      List.drop_append_of_le_length long, ih fewer, List.cons_append]

theorem decryptBlocks_append (f : Octets 16 → Octets 16) (before : Octets 16)
    (xs ys : List (Octets 16)) :
    decryptBlocks f before (xs ++ ys)
      = decryptBlocks f before xs ++ decryptBlocks f (xs.getLastD before) ys := by
  induction xs generalizing before with
  | nil => rfl
  | cons x xs ih => simp only [List.cons_append, decryptBlocks, ih, List.getLastD_cons]

@[simp] theorem length_decryptBlocks (f : Octets 16 → Octets 16) (before : Octets 16)
    (xs : List (Octets 16)) : (decryptBlocks f before xs).length = xs.length := by
  induction xs generalizing before with
  | nil => rfl
  | cons x xs ih => simp [decryptBlocks, ih]

/-! ## Whole blocks -/

theorem length_encryptWhole {key iv : Octets 16} {data : Bytes} (h : data.length % 16 = 0) :
    (encryptWhole key iv data).length = data.length := by
  unfold encryptWhole
  rw [length_joined, length_encryptBlocks, length_blocks]
  omega

theorem decryptWhole_encryptWhole {key iv : Octets 16} {data : Bytes} (h : data.length % 16 = 0) :
    decryptWhole key iv (encryptWhole key iv data) = data := by
  have count : (encryptWhole key iv data).length / 16
      = (encryptBlocks (Aes.encrypt key) iv (blocks (data.length / 16) data)).length := by
    rw [length_encryptWhole h, length_encryptBlocks, length_blocks]
  unfold decryptWhole
  rw [count]
  unfold encryptWhole
  rw [blocks_joined, decryptBlocks_encryptBlocks (Aes.decrypt_encrypt key),
    joined_blocks (by omega)]

theorem length_decryptWhole {key iv : Octets 16} {data : Bytes} (h : data.length % 16 = 0) :
    (decryptWhole key iv data).length = data.length := by
  unfold decryptWhole
  rw [length_joined, length_decryptBlocks, length_blocks]
  omega

/-- Whole blocks are decrypted as if they stood alone, whatever follows them. -/
theorem decryptWhole_append (key iv : Octets 16) {data : Bytes} (rest : Bytes)
    (h : data.length % 16 = 0) :
    ∃ more, decryptWhole key iv (data ++ rest) = decryptWhole key iv data ++ more
      ∧ more.length = 16 * (rest.length / 16) := by
  have count : (data ++ rest).length / 16 = data.length / 16 + rest.length / 16 := by
    rw [List.length_append]
    omega
  unfold decryptWhole
  rw [count, blocks_append (by omega), decryptBlocks_append, joined, List.flatMap_append]
  exact ⟨_, rfl, by rw [← joined, length_joined, length_decryptBlocks, length_blocks]⟩

/-! ## Filling up -/

theorem length_filled (data : Bytes) : (filled data).length = 16 * (data.length / 16 + 1) := by
  simp only [filled, fillCount, List.length_append, List.length_replicate]
  omega

theorem stripped?_filled (data : Bytes) : stripped? (filled data) = some data := by
  have pos : 1 ≤ fillCount data.length := by unfold fillCount; omega
  have le : fillCount data.length ≤ 16 := by unfold fillCount; omega
  have number : (UInt8.ofNat (fillCount data.length)).toNat = fillCount data.length := by
    rw [UInt8.toNat_ofNat']
    omega
  have last : (filled data).getLast? = some (UInt8.ofNat (fillCount data.length)) := by
    have some : fillCount data.length ≠ 0 := by omega
    simp [filled, List.getLast?_append, List.getLast?_replicate, some]
  have kept : (filled data).take ((filled data).length - fillCount data.length) = data := by
    simp [filled]
  have accepted : (guard (1 ≤ fillCount data.length ∧ fillCount data.length ≤ 16 ∧ filled data
      = data ++ List.replicate (fillCount data.length) (UInt8.ofNat (fillCount data.length)))
      : Option Unit) = some () := if_pos ⟨pos, le, rfl⟩
  unfold stripped?
  rw [last, Option.bind_eq_bind, Option.bind_some, number]
  dsimp only
  rw [kept, accepted]
  rfl

/-- What is stripped of whole blocks is what filled them up. -/
theorem eq_filled_of_stripped? {data kept : Bytes} (whole : data.length % 16 = 0)
    (h : stripped? data = some kept) : data = filled kept := by
  unfold stripped? at h
  obtain ⟨last, -, h⟩ := Option.bind_eq_some_iff.1 h
  dsimp only at h
  obtain ⟨_, accepted, rest⟩ := Option.bind_eq_some_iff.1 h
  obtain rfl := Option.some.inj rest
  unfold guard at accepted
  split at accepted
  · next holds =>
    obtain ⟨pos, le, shape⟩ := holds
    -- The count brings what is kept back to whole blocks, so it is the one that fills it up.
    have own : fillCount (data.take (data.length - last.toNat)).length = last.toNat := by
      have total := congrArg List.length shape
      rw [List.length_append, List.length_replicate] at total
      unfold fillCount
      omega
    unfold filled
    rw [own]
    exact shape
  · cases accepted

/-- **Decryption accepts** whole blocks, at least one, that are filled up once they are decrypted. -/
theorem decrypt_eq_ok_iff {key iv : Octets 16} {data plain : Bytes} :
    decrypt key iv.bytes data .counted = .ok plain ↔
      data ≠ [] ∧ data.length % 16 = 0 ∧ decryptWhole key iv data = filled plain := by
  unfold decrypt
  rw [Octets.ofBytes?_bytes]
  by_cases whole : data.length % 16 = 0
  · by_cases none : data = []
    · simp [none]
    · have aligned : ¬(data.length = 0 ∨ data.length % 16 ≠ 0) := by
        simp [whole, none]
      rw [if_neg aligned]
      dsimp only
      constructor
      · intro h
        split at h
        · next kept found =>
          cases h
          have blocks : (decryptWhole key iv data).length % 16 = 0 := by
            rw [length_decryptWhole whole, whole]
          exact ⟨none, whole, eq_filled_of_stripped? blocks found⟩
        · cases h
      · rintro ⟨-, -, plain⟩
        simp [plain, stripped?_filled]
  · simp [whole]

theorem length_encryptFilled (key iv : Octets 16) (data : Bytes) :
    (encryptFilled key iv data).length = 16 * (data.length / 16 + 1) := by
  unfold encryptFilled
  rw [length_encryptWhole (by rw [length_filled]; omega), length_filled]

/-- **What was filled up and encrypted is decrypted to itself.** -/
theorem decrypt_encryptFilled (key iv : Octets 16) (data : Bytes) :
    decrypt key iv.bytes (encryptFilled key iv data) .counted = .ok data := by
  have whole : (filled data).length % 16 = 0 := by
    rw [length_filled]
    omega
  have aligned : ¬((encryptFilled key iv data).length = 0
      ∨ (encryptFilled key iv data).length % 16 ≠ 0) := by
    rw [length_encryptFilled]
    omega
  have plain : decryptWhole key iv (encryptFilled key iv data) = filled data :=
    decryptWhole_encryptWhole whole
  unfold decrypt
  rw [if_neg aligned, Octets.ofBytes?_bytes]
  simp only [plain, stripped?_filled]

end Cbc

end DeviceAuth
