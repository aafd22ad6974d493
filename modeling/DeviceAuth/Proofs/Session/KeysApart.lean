import Mathlib.Data.List.Nodup
import DeviceAuth.Proofs.Cipher.Aes
import DeviceAuth.Proofs.Session.Course

/-!
# No two keys of an activation are the same

All keys of an activation are derived from one secret, each with an index of its own. To derive is to
encrypt the index, and encryption can be undone, so whatever the secret is, an index is settled by the
key it gives (`SymmetricKey.derive_inj`). The same goes for the keys below a vault.

`Session.keys_apart` says what that means for the one who holds the locks of an activation. The keys that
sign, the transport key and the vault key are five different keys, and they are the ones that are reached
at every moment of its life.
-/

set_option autoImplicit false

namespace DeviceAuth

theorem Octets.ofWord_inj {i j : UInt64} : ofWord i = ofWord j ↔ i = j := by
  constructor
  · intro same
    have number := congrArg (fun octets : Octets 16 => Bytes.ofBigEndian octets.bytes) same
    simpa only [Bytes.ofBigEndian_ofWord, UInt64.toNat_inj] using number
  · rintro rfl
    rfl

namespace SymmetricKey

/-- **Different indices give different keys**, below every secret. -/
theorem derive_inj {secret : SymmetricKey} {i j : UInt64} :
    secret.derive i = secret.derive j ↔ i = j :=
  Aes.encrypt_inj.trans Octets.ofWord_inj

theorem derive_injective (secret : SymmetricKey) : Function.Injective secret.derive :=
  fun _ _ => derive_inj.1

/-- The five keys of an activation are different. -/
theorem nodup_activationKeys (master : SymmetricKey) :
    [master.derive KeyIndex.possession, master.derive KeyIndex.knowledge,
      master.derive KeyIndex.biometry, master.derive KeyIndex.transport,
      master.derive KeyIndex.vault].Nodup := by
  have indices : [KeyIndex.possession, KeyIndex.knowledge, KeyIndex.biometry, KeyIndex.transport,
    KeyIndex.vault].Nodup := by decide
  exact indices.map master.derive_injective

end SymmetricKey

namespace Session

/-- **Derived keys never coincide**: not below any secret, not below the key of any vault. In particular
every activation has five different keys. At every moment of its life where it can be used, the locks of
that moment unlock the first three of them to sign with, and the fourth for transport; the fifth opens the
device's private key. -/
theorem keys_apart :
    (∀ (secret : SymmetricKey) (i j : UInt64), secret.derive i = secret.derive j ↔ i = j)
    ∧ (∀ (vault : Vault) (i j : UInt64), vault.derive i = vault.derive j ↔ i = j)
    ∧ ∀ (empty first : Session) (calls : List Call) (keys : UnlockKeys) (initial : Locks)
        (a a' : Ambient),
      empty.stage = .empty →
      (∀ id, (empty.after calls).activationId? = some id → (Bytes.ofText id).length < 2 ^ 64) →
      Session.locks keys = .ok initial →
      (commit keys).Gives (empty.after calls) a () first a' →
      ∃ possession knowledge biometry transport vault : SymmetricKey,
        [possession, knowledge, biometry, transport, vault].Nodup
        ∧ ∀ (s : Session) (locks : Locks) (vaults : List Vault) (record : Record),
          Course first initial s locks vaults → s.activeRecord = .ok record →
          (s.unlockSignatureKeys record locks.unlockKeys .possessionKnowledge).Returns
            [possession, knowledge]
          ∧ (record.hasBiometry = true →
            (∀ other ∈ vaults, ¬KeyWrap.Collision vault.bytes other.key.bytes record.devicePrivate) →
            (s.unlockSignatureKeys record locks.unlockKeys .possessionKnowledgeBiometry).Returns
              [possession, knowledge, biometry])
          ∧ (s.unlockTransportKey record locks.unlockKeys).Returns transport
          ∧ ∃ plain, KeyWrap.reveal vault.bytes record.devicePrivate = .ok plain := by
  refine ⟨fun _ _ _ => SymmetricKey.derive_inj, fun _ _ _ => SymmetricKey.derive_inj, ?_⟩
  intro empty first calls keys initial a a' new short accepted committed
  obtain ⟨h, iv, established, start⟩ := keeps_of_commit accepted committed
  have named := activationId?_of_established established
  refine ⟨_, _, _, _, _, h.master.nodup_activationKeys, fun s locks vaults record course active => ?_⟩
  have k := course.keeps (exchanged_after new established) (short _ named) start
  have own := k.of_active active
  have signing : s.Unlocks record locks.unlockKeys .possessionKnowledge _ :=
    own.unlocks k.usable nofun
  refine ⟨signing.returns, fun has right => ?_, own.returns_transport k.usable, _,
    own.reveal_devicePrivate⟩
  rw [own.devicePrivate] at right
  exact (own.unlocks k.usable fun _ => ⟨has, right⟩).returns

/-- The keys of an activation whose password was changed, and that was restored after a reset; and the
first and last key of one vault. -/
theorem keys_apart_of_renewed :
    let a : Ambient := ⟨⟨[], 7⟩, 0, []⟩
    let keys : UnlockKeys := ⟨some SymmetricKey.ones.bytes, none, some ⟨[1, 2, 3, 4]⟩⟩
    let renewed : UnlockKeys := ⟨some SymmetricKey.ones.bytes, none, some ⟨[5, 6, 7, 8]⟩⟩
    let answer := ActivationAnswer.ofServer .unit "activation" .zero none
    let exchanged := ((Session.counting 0).at .empty).after
      [⟨.begin none, a⟩, ⟨.establish answer, a⟩]
    let vault : Vault := ⟨"activation", .ones, .unit⟩
    (∃ first changed current record possession knowledge transport a₁ a₂ a₃,
      (Session.commit keys).Gives exchanged a () first a₁
      ∧ (Session.changePassword ⟨[1, 2, 3, 4]⟩ ⟨[5, 6, 7, 8]⟩).Gives first a₁ () changed a₂
      ∧ (Session.deserialize changed.serialize).Gives (first.at .empty) a₂ () current a₃
      ∧ current.activeRecord = .ok record
      ∧ (current.unlockSignatureKeys record renewed .possessionKnowledge).Returns
        [possession, knowledge]
      ∧ (current.unlockTransportKey record renewed).Returns transport
      ∧ possession ≠ knowledge ∧ knowledge ≠ transport)
    ∧ vault.derive 0 ≠ vault.derive (UInt64.ofNat (UInt64.size - 1)) := by
  intro a keys renewed answer exchanged vault
  obtain ⟨-, below, apart⟩ := keys_apart
  obtain ⟨short, first, changed, current, record, a₁, a₂, a₃, committed, changing, restoring, course,
    active⟩ := exists_renewed_of_fresh a
  have accepted : Session.locks keys = .ok ⟨.ones, ⟨[1, 2, 3, 4]⟩, none⟩ := rfl
  obtain ⟨possession, knowledge, biometry, transport, vaultKey, nodup, reached⟩ :=
    apart _ first _ keys _ a a₁ rfl short accepted committed
  obtain ⟨signing, -, carrying, -⟩ := reached current _ [] record course active
  have different : possession ≠ knowledge ∧ knowledge ≠ transport := by
    simp only [List.nodup_cons, List.mem_cons, not_or] at nodup
    exact ⟨nodup.1.1, nodup.2.1.2.1⟩
  refine ⟨⟨first, changed, current, record, possession, knowledge, transport, a₁, a₂, a₃, committed,
    changing, restoring, active, signing, carrying, different⟩, fun same => ?_⟩
  exact absurd ((below vault _ _).1 same) (by decide)

end Session

end DeviceAuth
