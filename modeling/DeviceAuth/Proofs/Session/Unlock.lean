import DeviceAuth.Proofs.KeyWrap
import DeviceAuth.Vault

/-!
# What unlock keys reach

`Session.Unlocks` says which signature keys some unlock keys reach in a record, and when: it names
the lock of every factor that takes part and the key under it. Unlocking gives exactly that and
leaves the surroundings alone (`gives_unlockSignatureKeys`), so everything about unlocking is a
statement about `StoredKey.Opens`, in either direction.
-/

set_option autoImplicit false

namespace DeviceAuth

variable {s : Session} {record : Record} {keys : UnlockKeys} {factor : SignatureFactor}
  {external : Option SymmetricKey} {a a' : Ambient}

/-! ## Records that can be used -/

theorem Session.activeRecord_eq_ok_iff :
    s.activeRecord = .ok record ↔ s.stage = .activated record ∧ record.blocked = false := by
  unfold activeRecord
  cases s.stage with
  | activated found =>
    dsimp only
    by_cases blocked : found.blocked = true
    · rw [if_pos blocked]
      simp only [reduceCtorEq, Stage.activated.injEq, false_iff, not_and]
      rintro rfl
      simp [blocked]
    · rw [if_neg blocked, Except.ok.injEq, Stage.activated.injEq]
      constructor
      · rintro rfl
        exact ⟨rfl, Bool.eq_false_iff.2 blocked⟩
      · exact And.left
  | _ => simp

theorem Session.committedRecord_eq_ok_iff :
    s.committedRecord = .ok record ↔ s.stage = .activated record := by
  unfold committedRecord
  cases s.stage <;> simp

theorem Session.record?_eq_some_iff : s.record? = some record ↔ s.stage = .activated record := by
  unfold record?
  cases s.stage <;> simp

/-- Whether an activation is committed or was. -/
def Stage.settled : Stage → Bool
  | activated _ => true
  | removed => true
  | _ => false

theorem Session.settled_of_record? (h : s.record? = some record) : s.stage.settled = true := by
  rw [Session.record?_eq_some_iff.1 h]
  rfl

/-! ## Single keys -/

/-- The key a password reaches, if knowledge takes part. -/
def Record.FindsKnowledge (record : Record) (external : Option SymmetricKey) (keys : UnlockKeys)
    (used : Bool) (found : List SymmetricKey) : Prop :=
  if used then
    ∃ password lock key, keys.requirePassword = .ok password
      ∧ Kdf.passwordLock password.bytes record.keys.salt = .ok lock
      ∧ record.keys.knowledge.Opens lock external key ∧ found = [key]
  else found = []

/-- The key a biometry lock reaches, if biometry takes part. -/
def Record.FindsBiometry (record : Record) (external : Option SymmetricKey) (keys : UnlockKeys)
    (used : Bool) (found : List SymmetricKey) : Prop :=
  if used then
    ∃ lock stored key, UnlockKeys.require .biometry keys.biometry = .ok lock
      ∧ record.keys.biometry = some stored ∧ stored.Opens lock external key ∧ found = [key]
  else found = []

@[simp] theorem Session.gives_unlockKnowledge {password : Password} {key : SymmetricKey} :
    (unlockKnowledge record external password).Gives a key a' ↔
      (∃ lock, Kdf.passwordLock password.bytes record.keys.salt = .ok lock
        ∧ record.keys.knowledge.Opens lock external key) ∧ a' = a := by
  unfold unlockKnowledge
  simp only [Core.gives_bind, Core.gives_liftM_checked, StoredKey.gives_reveal]
  grind

theorem Session.biometryLock_eq_ok_iff {lock : SymmetricKey} {stored : StoredKey} :
    biometryLock record keys = .ok (lock, stored) ↔
      UnlockKeys.require .biometry keys.biometry = .ok lock
        ∧ record.keys.biometry = some stored := by
  unfold biometryLock
  cases UnlockKeys.require .biometry keys.biometry with
  | error e => simp [bind, Except.bind]
  | ok found =>
    cases record.keys.biometry with
    | none => simp [bind, Except.bind, throw, throwThe, MonadExceptOf.throw]
    | some stored => simp [bind, Except.bind, pure, Except.pure]

/-! ## The keys of a combination -/

/-- Some unlock keys reach these signature keys of a record. -/
structure Session.Unlocks (s : Session) (record : Record) (keys : UnlockKeys)
    (factor : SignatureFactor) (found : List SymmetricKey) : Prop where
  valid : keys.validate = .ok ()
  reached : ∃ lock external possession knowledge biometry,
    UnlockKeys.require .possession keys.possession = .ok lock
      ∧ s.externalFor record = .ok external
      ∧ record.keys.possession.Opens lock external possession
      ∧ record.FindsKnowledge external keys factor.usesKnowledge knowledge
      ∧ record.FindsBiometry external keys factor.usesBiometry biometry
      ∧ found = possession :: knowledge ++ biometry

/-- **Unlocking gives what the unlock keys reach**, and nothing else. -/
@[simp] theorem Session.gives_unlockSignatureKeys {found : List SymmetricKey} :
    (s.unlockSignatureKeys record keys factor).Gives a found a' ↔
      s.Unlocks record keys factor found ∧ a' = a := by
  have parts : s.Unlocks record keys factor found ↔ keys.validate = .ok () ∧ _ :=
    ⟨fun h => ⟨h.valid, h.reached⟩, fun h => ⟨h.1, h.2⟩⟩
  rw [parts]
  unfold unlockSignatureKeys Record.FindsKnowledge Record.FindsBiometry
  cases factor.usesKnowledge <;> cases factor.usesBiometry
  · simp [and_assoc]
    grind
  · simp [and_assoc, biometryLock_eq_ok_iff]
    grind
  · simp [and_assoc]
    grind
  · simp [and_assoc, biometryLock_eq_ok_iff]
    grind

theorem Session.Unlocks.returns {found : List SymmetricKey}
    (h : s.Unlocks record keys factor found) :
    (s.unlockSignatureKeys record keys factor).Returns found :=
  fun _ => gives_unlockSignatureKeys.2 ⟨h, rfl⟩

theorem Session.Unlocks.length {found : List SymmetricKey}
    (h : s.Unlocks record keys factor found) : 1 ≤ found.length ∧ found.length ≤ 3 := by
  obtain ⟨_, _, _, knowledge, biometry, -, -, -, hk, hb, rfl⟩ := h.reached
  unfold Record.FindsKnowledge at hk
  unfold Record.FindsBiometry at hb
  split at hk <;> split at hb <;> grind

/-- The transport key, by its lock. -/
@[simp] theorem Session.gives_unlockTransportKey {key : SymmetricKey} :
    (s.unlockTransportKey record keys).Gives a key a' ↔
      (keys.validate = .ok () ∧ ∃ lock external,
        UnlockKeys.require .possession keys.possession = .ok lock
          ∧ s.externalFor record = .ok external
          ∧ record.keys.transport.Opens lock external key) ∧ a' = a := by
  unfold unlockTransportKey
  simp only [Core.gives_bind, Core.gives_liftM_checked, StoredKey.gives_reveal]
  grind

/-! ## Vaults -/

/-- A vault belongs to the activation of a session: its key opens the device's private key there. -/
structure Vault.Belongs (vault : Vault) (s : Session) (record : Record) : Prop where
  active : s.activeRecord = .ok record
  activationId : vault.activationId = record.activationId
  opens : ∃ plain, KeyWrap.reveal vault.key.bytes record.devicePrivate = .ok plain
    ∧ KeyPair.ofBytes plain = .ok vault.pair

theorem Vault.belongs_of_unlock {authorization : VaultAuthorization} {encryptedKey : String}
    {vault : Vault} (h : (unlock s authorization keys encryptedKey).Gives a vault a') :
    ∃ record, vault.Belongs s record := by
  unfold unlock at h
  simp [and_assoc] at h
  obtain ⟨record, active, -, -, -, -, -, -, key, -, plain, opened, pair, read, -, rfl⟩ := h
  exact ⟨record, active, rfl, plain, opened, read⟩

end DeviceAuth
