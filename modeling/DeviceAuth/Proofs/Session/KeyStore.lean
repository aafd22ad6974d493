import DeviceAuth.Proofs.Curve.Key
import DeviceAuth.Proofs.Record.Form
import DeviceAuth.Proofs.Session.Transition

/-!
# The keys of an activation under its locks

A committed activation holds five secrets: three signature keys, the transport key and the device's
private key. All of them are settled when the activation is committed, and none of them is ever there
in the clear again. What does change is what they are under: a password is replaced with its salt, a
biometry lock comes and goes.

`Record.Keeps` says that a record is in step with the locks somebody holds: every key that is stored
is the one below the master secret, and its lock opens it. The theorems after it are the steps that
keep it so. What it is good for is at the end: the holder of the locks unlocks exactly these keys
(`Record.Keeps.unlocks`), and whoever else unlocks something has met a collision of tags
(`Record.Keeps.eq_or_confuses`).
-/

set_option autoImplicit false

namespace DeviceAuth

/-- The keys a combination of factors signs with, below a master secret. -/
def SymmetricKey.signatureKeys (master : SymmetricKey) (factor : SignatureFactor) :
    List SymmetricKey :=
  let knowledge := if factor.usesKnowledge then [master.derive KeyIndex.knowledge] else []
  let biometry := if factor.usesBiometry then [master.derive KeyIndex.biometry] else []
  master.derive KeyIndex.possession :: knowledge ++ biometry

/-! ## Unlock keys -/

namespace UnlockKeys

variable {role : KeyRole} {key : SymmetricKey}

theorem checkKey_eq_ok_iff {bytes : Bytes} :
    checkKey role bytes = .ok key ↔ bytes = key.bytes ∧ key.isZero = false := by
  unfold checkKey
  cases found : (Octets.ofBytes? bytes : Option (Octets 16)) with
  | none =>
    refine ⟨fun h => absurd h (by simp), ?_⟩
    rintro ⟨rfl, -⟩
    rw [Octets.ofBytes?_bytes] at found
    cases found
  | some octets =>
    obtain rfl := Octets.ofBytes?_eq_some_iff.1 found
    dsimp only
    by_cases zero : octets.isZero = true
    · rw [if_pos zero]
      refine ⟨fun h => absurd h (by simp), fun ⟨same, nonzero⟩ => ?_⟩
      rw [Octets.ext same, nonzero] at zero
      cases zero
    · rw [if_neg zero]
      constructor
      · intro h
        cases h
        exact ⟨rfl, Bool.eq_false_iff.2 zero⟩
      · intro h
        rw [Octets.ext h.1]

theorem require_eq_ok_iff {given : Option Bytes} :
    require role given = .ok key ↔ given = some key.bytes ∧ key.isZero = false := by
  cases given with
  | none => simp [require]
  | some bytes => simp [require, checkKey_eq_ok_iff]

theorem checkGiven_of_isZero {given : Option SymmetricKey}
    (h : ∀ key, given = some key → key.isZero = false) :
    checkGiven role (given.map Octets.bytes) = .ok given := by
  cases given with
  | none => rfl
  | some key =>
    have checked : checkKey role key.bytes = .ok key := checkKey_eq_ok_iff.2 ⟨rfl, h key rfl⟩
    simp [checkGiven, checked, Except.map]

theorem isZero_of_checkGiven {bytes : Option Bytes} {given : Option SymmetricKey}
    (h : checkGiven role bytes = .ok given) : ∀ key, given = some key → key.isZero = false := by
  rintro key rfl
  cases bytes with
  | none => cases h
  | some bytes =>
    cases checked : checkKey role bytes with
    | error e => simp [checkGiven, checked, Except.map] at h
    | ok found =>
      simp only [checkGiven, checked, Except.map, Except.ok.injEq, Option.some.injEq] at h
      exact (checkKey_eq_ok_iff.1 (h ▸ checked)).2

end UnlockKeys

/-! ## Locks -/

namespace Session.Locks

/-- The locks, as they are handed over to unlock everything they can. -/
def unlockKeys (locks : Locks) : UnlockKeys where
  possession := some locks.possession.bytes
  biometry := locks.biometry.map Octets.bytes
  password := some locks.password

/-- No lock is zero, so that the locks are accepted as unlock keys. -/
structure Usable (locks : Locks) : Prop where
  possession : locks.possession.isZero = false
  biometry : ∀ lock, locks.biometry = some lock → lock.isZero = false

theorem usable_of_accepted {keys : UnlockKeys} {locks : Locks}
    (h : Session.locks keys = .ok locks) : locks.Usable := by
  unfold Session.locks at h
  obtain ⟨_, -, h⟩ := except_bind_eq_ok_iff.1 h
  obtain ⟨possession, given, h⟩ := except_bind_eq_ok_iff.1 h
  obtain ⟨password, -, h⟩ := except_bind_eq_ok_iff.1 h
  dsimp only at h
  split at h
  · obtain ⟨biometry, checked, h⟩ := except_bind_eq_ok_iff.1 h
    cases h
    exact ⟨(UnlockKeys.require_eq_ok_iff.1 given).2, UnlockKeys.isZero_of_checkGiven checked⟩
  · cases h

theorem Usable.validate {locks : Locks} (h : locks.Usable) : locks.unlockKeys.validate = .ok () := by
  have possession : UnlockKeys.checkGiven .possession (some locks.possession.bytes)
      = .ok (some locks.possession) :=
    congrArg (Except.map some) (UnlockKeys.checkKey_eq_ok_iff.2 ⟨rfl, h.possession⟩)
  have biometry : UnlockKeys.checkGiven .biometry (locks.biometry.map Octets.bytes)
      = .ok locks.biometry := UnlockKeys.checkGiven_of_isZero h.biometry
  refine except_bind_eq_ok_iff.2 ⟨_, possession, ?_⟩
  exact except_bind_eq_ok_iff.2 ⟨_, biometry, rfl⟩

end Session.Locks

/-! ## Records in step with locks -/

/-- What is stored has a length that can be written down. -/
theorem StoredKey.fits_protected {key lock : SymmetricKey} {external : Option SymmetricKey}
    {stored : StoredKey} {a a' : Ambient} (kept : (protect key lock external).Gives a stored a') :
    stored.bytes.length < 2 ^ 64 :=
  Nat.lt_of_le_of_lt (length_protected kept) (by decide)

theorem Octets.fits_bytes (salt : Octets 16) : salt.bytes.length < 2 ^ 64 := by
  rw [salt.length_eq]
  decide

/-- The device's private key, wrapped as an activation stores it. -/
def Handshake.sealed (h : Handshake) (iv : Octets 16) : Bytes :=
  KeyWrap.enclose (h.master.derive KeyIndex.vault).bytes iv h.pair.privateBytes

/-- The vault was unlocked with a key other than the one below the master secret, and one that makes
the same tag over the device's private key. -/
def Handshake.Mistakes (h : Handshake) (iv : Octets 16) (vault : Vault) : Prop :=
  KeyWrap.Collision (h.master.derive KeyIndex.vault).bytes vault.key.bytes (h.sealed iv)

/-- A record is in step with the locks somebody holds: each of its keys is the one below the master
secret, and the lock of its factor opens it. -/
structure Record.Keeps (record : Record) (h : Handshake) (iv : Octets 16)
    (external : Option SymmetricKey) (locks : Session.Locks) (vaults : List Vault) : Prop where
  activationId : record.activationId = h.activationId
  serverKey : record.serverKey = h.serverKey.bytes
  deviceKey : record.deviceKey = h.pair.publicKey.bytes
  devicePrivate : record.devicePrivate = h.sealed iv
  usesExternal : record.usesExternal = external.isSome
  possession : record.keys.possession.Opens locks.possession external
    (h.master.derive KeyIndex.possession)
  knowledge : ∃ lock, Kdf.passwordLock locks.password.bytes record.keys.salt = .ok lock
    ∧ record.keys.knowledge.Opens lock external (h.master.derive KeyIndex.knowledge)
  /-- A biometry key that was added from an unlocked vault is only as good as that vault. -/
  biometry : ∀ stored, record.keys.biometry = some stored → ∃ lock key,
    locks.biometry = some lock ∧ stored.Opens lock external key
      ∧ (key = h.master.derive KeyIndex.biometry ∨ ∃ vault ∈ vaults, h.Mistakes iv vault)
  transport : record.keys.transport.Opens locks.possession external
    (h.master.derive KeyIndex.transport)
  keysFit : record.keys.Fits
  codesFit : record.confirmedCodes.length ≤ Record.confirmedLimit

namespace Record.Keeps

variable {record : Record} {h : Handshake} {iv : Octets 16} {external : Option SymmetricKey}
  {locks : Session.Locks} {vaults : List Vault}

theorem mono {more : List Vault} (k : record.Keeps h iv external locks vaults)
    (sub : ∀ vault ∈ vaults, vault ∈ more) : record.Keeps h iv external locks more := by
  refine { k with biometry := fun stored held => ?_ }
  obtain ⟨lock, key, given, opens, right⟩ := k.biometry stored held
  refine ⟨lock, key, given, opens, right.imp_right ?_⟩
  rintro ⟨vault, unlocked, mistaken⟩
  exact ⟨vault, sub vault unlocked, mistaken⟩

/-! ### Committing -/

/-- What one storing of the factor keys leaves, whether or not there is a biometry lock. -/
theorem newRecord_keeps {stored : FactorKeys} {salt : Octets 16} {lock : SymmetricKey}
    {a₁ a₂ a₃ a₄ a₅ a₆ : Ambient} (salted : stored.salt = salt.bytes)
    (locked : Kdf.passwordLock locks.password.bytes salt.bytes = .ok lock)
    (possession : (StoredKey.protect (h.master.derive KeyIndex.possession) locks.possession
      external).Gives a₁ stored.possession a₂)
    (knowledge : (StoredKey.protect (h.master.derive KeyIndex.knowledge) lock external).Gives a₃
      stored.knowledge a₄)
    (biometry : ∀ kept, stored.biometry = some kept → ∃ lock a a', locks.biometry = some lock
      ∧ (StoredKey.protect (h.master.derive KeyIndex.biometry) lock external).Gives a kept a')
    (transport : (StoredKey.protect (h.master.derive KeyIndex.transport) locks.possession
      external).Gives a₅ stored.transport a₆) :
    (Session.newRecord h external.isSome stored (h.sealed iv)).Keeps h iv external locks [] := by
  refine ⟨rfl, rfl, rfl, rfl, rfl, StoredKey.opens_protected possession,
    ⟨lock, salted.symm ▸ locked, StoredKey.opens_protected knowledge⟩, fun kept held => ?_,
    StoredKey.opens_protected transport, ⟨StoredKey.fits_protected possession,
      StoredKey.fits_protected knowledge, fun kept held => ?_, StoredKey.fits_protected transport,
      salted.symm ▸ salt.fits_bytes⟩, Nat.zero_le _⟩
  · obtain ⟨lock, _, _, given, gives⟩ := biometry kept held
    exact ⟨lock, _, given, StoredKey.opens_protected gives, Or.inl rfl⟩
  · obtain ⟨_, _, _, -, gives⟩ := biometry kept held
    exact StoredKey.fits_protected gives

theorem of_storeKeys {stored : FactorKeys} {a a' : Ambient}
    (kept : (Session.storeKeys h.master locks external).Gives a stored a') :
    (Session.newRecord h external.isSome stored (h.sealed iv)).Keeps h iv external locks [] := by
  unfold Session.storeKeys at kept
  cases given : locks.biometry with
  | none =>
    simp only [given, Core.gives_bind, Core.gives_liftM_checked, Core.gives_pure] at kept
    obtain ⟨salt, _, -, lock, _, ⟨locked, -⟩, _, _, ⟨rfl, -⟩, possession, _, keptPossession,
      knowledge, _, keptKnowledge, transport, _, keptTransport, rfl, -⟩ := kept
    refine newRecord_keeps rfl locked keptPossession keptKnowledge ?_ keptTransport
    rintro kept ⟨⟩
  | some own =>
    simp only [given, Core.gives_bind, Core.gives_map, Core.gives_liftM_checked, Core.gives_pure]
      at kept
    obtain ⟨salt, _, -, lock, _, ⟨locked, -⟩, _, _, ⟨biometry, keptBiometry, rfl⟩, possession, _,
      keptPossession, knowledge, _, keptKnowledge, transport, _, keptTransport, rfl, -⟩ := kept
    refine newRecord_keeps rfl locked keptPossession keptKnowledge ?_ keptTransport
    rintro kept ⟨⟩
    exact ⟨own, _, _, given, keptBiometry⟩

/-! ### Changing -/

theorem rememberCode (k : record.Keeps h iv external locks vaults) (digest : Octets 32) :
    (record.rememberCode digest).Keeps h iv external locks vaults := by
  unfold Record.rememberCode
  by_cases known : record.knowsCode digest = true
  · rw [if_pos known]
    exact k
  · rw [if_neg known]
    refine { k with codesFit := ?_ }
    have codes := k.codesFit
    dsimp only
    split
    · rw [List.length_append, List.length_drop]
      show record.confirmedCodes.length - 1 + 1 ≤ _
      unfold Record.confirmedLimit at codes ⊢
      omega
    · rw [List.length_append]
      show record.confirmedCodes.length + 1 ≤ _
      omega

/-- Whoever gives the current password has the knowledge key put under the new one. -/
theorem changePassword {new : Password} {oldLock key lock : SymmetricKey} {salt : Octets 16}
    {stored : StoredKey} {a a' : Ambient} (k : record.Keeps h iv external locks vaults)
    (oldLocked : Kdf.passwordLock locks.password.bytes record.keys.salt = .ok oldLock)
    (opened : record.keys.knowledge.Opens oldLock external key)
    (locked : Kdf.passwordLock new.bytes salt.bytes = .ok lock)
    (kept : (StoredKey.protect key lock external).Gives a stored a') :
    ({ record with keys := { record.keys with knowledge := stored, salt := salt.bytes } }
      : Record).Keeps h iv external { locks with password := new } vaults := by
  -- The old password stretches to the lock that is known to open the key, so the key that was
  -- found under it is the one below the master secret.
  obtain ⟨own, ownLocked, opens⟩ := k.knowledge
  obtain rfl : own = oldLock := Except.ok.inj (ownLocked.symm.trans oldLocked)
  obtain rfl : key = h.master.derive KeyIndex.knowledge := opens.unique opened
  exact { k with
    knowledge := ⟨lock, locked, StoredKey.opens_protected kept⟩
    keysFit := { k.keysFit with
      knowledge := StoredKey.fits_protected kept
      salt := salt.fits_bytes } }

theorem removeBiometry (k : record.Keeps h iv external locks vaults) :
    ({ record with keys := { record.keys with biometry := none } } : Record).Keeps h iv external
      { locks with biometry := none } vaults :=
  { k with
    biometry := fun _ held => by cases held
    keysFit := { k.keysFit with biometry := fun _ held => by cases held } }

/-- A vault that found the device's key pair adds the biometry key below the master secret. -/
theorem addBiometry {vault : Vault} {lock : SymmetricKey} {serverKey : PublicKey}
    {stored : StoredKey} {a a' : Ambient} (k : record.Keeps h iv external locks vaults)
    (exchanged : h.master = Kdf.reduce (h.pair.sharedSecret h.serverKey))
    (right : vault.pair = h.pair ∨ ∃ vault ∈ vaults, h.Mistakes iv vault)
    (key : PublicKey.ofBytes record.serverKey = .ok serverKey)
    (kept : (StoredKey.protect ((Kdf.reduce (vault.pair.sharedSecret serverKey)).derive
      KeyIndex.biometry) lock external).Gives a stored a') :
    ({ record with keys := { record.keys with biometry := some stored } } : Record).Keeps h iv
      external { locks with biometry := some lock } vaults := by
  obtain rfl : h.serverKey = serverKey := by
    rw [k.serverKey, PublicKey.ofBytes_bytes] at key
    exact Except.ok.inj key
  refine { k with biometry := ?_, keysFit := { k.keysFit with biometry := ?_ } }
  · rintro _ ⟨⟩
    refine ⟨lock, _, rfl, StoredKey.opens_protected kept, right.imp_left fun same => ?_⟩
    rw [same, ← exchanged]
  · rintro _ ⟨⟩
    exact StoredKey.fits_protected kept

/-! ### Storing -/

/-- A record in step with its locks can be written down and read back. -/
theorem fits (k : record.Keeps h iv external locks vaults)
    (short : (Bytes.ofText h.activationId).length < 2 ^ 64) : record.Fits := by
  refine ⟨?_, ?_, ?_, ?_, k.keysFit, ?_⟩
  · rw [k.activationId]
    exact short
  · rw [k.serverKey, PublicKey.length_bytes]
    decide
  · rw [k.deviceKey, PublicKey.length_bytes]
    decide
  · rw [k.devicePrivate, Handshake.sealed, KeyWrap.length_enclose, KeyPair.privateBytes,
      Bytes.length_bigEndian]
    decide
  · exact Nat.lt_of_le_of_lt k.codesFit (by decide)

/-! ### Unlocking -/

variable {s : Session}

theorem externalFor_eq (k : record.Keeps h iv s.external locks vaults) :
    s.externalFor record = .ok s.external := by
  unfold Session.externalFor
  rw [k.usesExternal]
  cases s.external <;> rfl

theorem findsKnowledge (k : record.Keeps h iv external locks vaults) (used : Bool) :
    record.FindsKnowledge external locks.unlockKeys used
      (if used then [h.master.derive KeyIndex.knowledge] else []) := by
  unfold Record.FindsKnowledge
  cases used with
  | false => rfl
  | true =>
    obtain ⟨lock, locked, opens⟩ := k.knowledge
    exact ⟨locks.password, lock, _, rfl, locked, opens, rfl⟩

theorem findsBiometry (k : record.Keeps h iv external locks vaults) (usable : locks.Usable)
    {used : Bool} (right : used = true →
      record.hasBiometry = true ∧ ∀ vault ∈ vaults, ¬h.Mistakes iv vault) :
    record.FindsBiometry external locks.unlockKeys used
      (if used then [h.master.derive KeyIndex.biometry] else []) := by
  unfold Record.FindsBiometry
  cases used with
  | false => rfl
  | true =>
    obtain ⟨has, faithful⟩ := right rfl
    obtain ⟨stored, held⟩ := Option.isSome_iff_exists.1 has
    obtain ⟨lock, key, given, opens, own⟩ := k.biometry stored held
    have given' : locks.unlockKeys.biometry = some lock.bytes := congrArg (Option.map _) given
    have required : UnlockKeys.require .biometry locks.unlockKeys.biometry = .ok lock :=
      UnlockKeys.require_eq_ok_iff.2 ⟨given', usable.biometry lock given⟩
    rcases own with rfl | ⟨vault, unlocked, mistaken⟩
    · exact ⟨lock, stored, _, required, held, opens, rfl⟩
    · exact absurd mistaken (faithful vault unlocked)

/-- **The holder of the locks reaches exactly the keys below the master secret.** -/
theorem unlocks (k : record.Keeps h iv s.external locks vaults) (usable : locks.Usable)
    {factor : SignatureFactor} (right : factor.usesBiometry = true →
      record.hasBiometry = true ∧ ∀ vault ∈ vaults, ¬h.Mistakes iv vault) :
    s.Unlocks record locks.unlockKeys factor (h.master.signatureKeys factor) :=
  ⟨usable.validate, locks.possession, s.external, _, _, _,
    UnlockKeys.require_eq_ok_iff.2 ⟨rfl, usable.possession⟩, k.externalFor_eq, k.possession,
    k.findsKnowledge _, k.findsBiometry usable right, rfl⟩

theorem returns_transport (k : record.Keeps h iv s.external locks vaults) (usable : locks.Usable) :
    (s.unlockTransportKey record locks.unlockKeys).Returns (h.master.derive KeyIndex.transport) :=
  fun _ => Session.gives_unlockTransportKey.2 ⟨⟨usable.validate, locks.possession, s.external,
    UnlockKeys.require_eq_ok_iff.2 ⟨rfl, usable.possession⟩, k.externalFor_eq, k.transport⟩, rfl⟩

theorem reveal_devicePrivate (k : record.Keeps h iv external locks vaults) :
    KeyWrap.reveal (h.master.derive KeyIndex.vault).bytes record.devicePrivate
      = .ok h.pair.privateBytes := by
  rw [k.devicePrivate]
  exact KeyWrap.reveal_enclose _ _ _

/-- Whatever vault is unlocked from a record in step with its locks, it holds the device's key pair,
or the vault was mistaken. -/
theorem pair_of_belongs {vault : Vault} (k : record.Keeps h iv external locks vaults)
    (own : vault.Belongs s record) : vault.pair = h.pair ∨ h.Mistakes iv vault := by
  obtain ⟨plain, opened, read⟩ := own.opens
  -- The key that the server sent opened the wrapping. It need not be the one that closed it.
  rcases KeyWrap.eq_or_collision k.reveal_devicePrivate opened with rfl | clash
  · rw [KeyPair.ofBytes_privateBytes] at read
    exact Or.inl (Except.ok.inj read).symm
  · rw [k.devicePrivate] at clash
    exact Or.inr clash

end Record.Keeps

/-! ## Changing the password -/

/-- Whoever knows the password changes it to any that is long enough. -/
theorem Session.exists_gives_changePassword {s : Session} {record : Record} {old new : Password}
    {external : Option SymmetricKey} {key lock : SymmetricKey}
    (active : s.activeRecord = .ok record) (long : new.isAcceptable = true)
    (outside : s.externalFor record = .ok external)
    (locked : Kdf.passwordLock old.bytes record.keys.salt = .ok lock)
    (opened : record.keys.knowledge.Opens lock external key) (a : Ambient) :
    ∃ (stored : StoredKey) (salt : Octets 16), stored.bytes.length ≤ 144
      ∧ ∃ a', (changePassword old new).Gives s a () (s.at (.activated
        { record with keys := { record.keys with knowledge := stored, salt := salt.bytes } })) a' := by
  let salt := (a.entropy.draw 16).1
  have salted : ¬salt.bytes.length < 8 := by
    rw [salt.length_eq]
    decide
  have locked' : Kdf.passwordLock new.bytes salt.bytes = .ok _ := if_neg salted
  obtain ⟨stored, b, kept⟩ := StoredKey.sure_protect key
    (Argon2.stretch Kdf.passwordCost 16 new.bytes salt.bytes) external
    { a with entropy := (a.entropy.draw 16).2 }
  refine ⟨stored, salt, StoredKey.length_protected kept, ?_⟩
  unfold changePassword
  simp only [Change.gives_object_bind]
  simp [and_assoc, active, long, outside]
  exact ⟨key, ⟨lock, locked, opened⟩, _, locked', stored, ⟨b, kept⟩, rfl⟩

/-! ## Other people's unlock keys -/

/-- Some unlock keys hold a lock that is not the holder's, and that makes the same tag over what is
stored for a factor that takes part. -/
inductive Record.Confuses (record : Record) (external : Option SymmetricKey)
    (locks : Session.Locks) (keys : UnlockKeys) (factor : SignatureFactor) : Prop
  | possession {lock : SymmetricKey}
    (given : UnlockKeys.require .possession keys.possession = .ok lock)
    (clash : record.keys.possession.Collision locks.possession lock external)
  | knowledge {password : Password} {own lock : SymmetricKey} (used : factor.usesKnowledge = true)
    (given : keys.requirePassword = .ok password)
    (ownLocked : Kdf.passwordLock locks.password.bytes record.keys.salt = .ok own)
    (locked : Kdf.passwordLock password.bytes record.keys.salt = .ok lock)
    (clash : record.keys.knowledge.Collision own lock external)
  | biometry {stored : StoredKey} {own lock : SymmetricKey} (used : factor.usesBiometry = true)
    (held : record.keys.biometry = some stored)
    (given : UnlockKeys.require .biometry keys.biometry = .ok lock)
    (holder : locks.biometry = some own) (clash : stored.Collision own lock external)

/-- Every unlock key is one of the holder's locks. -/
structure UnlockKeys.Own (keys : UnlockKeys) (locks : Session.Locks) : Prop where
  possession : ∀ bytes, keys.possession = some bytes → bytes = locks.possession.bytes
  password : ∀ password, keys.password = some password → password = locks.password
  biometry : ∀ bytes, keys.biometry = some bytes → locks.biometry.map Octets.bytes = some bytes

theorem Session.Locks.own_unlockKeys (locks : Session.Locks) : locks.unlockKeys.Own locks where
  possession := by
    rintro _ ⟨⟩
    rfl
  password := by
    rintro _ ⟨⟩
    rfl
  biometry := fun _ => id

/-- The holder's own locks collide with nothing. -/
theorem UnlockKeys.Own.not_confuses {keys : UnlockKeys} {locks : Session.Locks} {record : Record}
    {external : Option SymmetricKey} {factor : SignatureFactor} (own : keys.Own locks) :
    ¬record.Confuses external locks keys factor := by
  intro confused
  cases confused with
  | possession given clash =>
    obtain ⟨_, -, differ, -⟩ := clash
    exact differ (own.possession _ (UnlockKeys.require_eq_ok_iff.1 given).1).symm
  | @knowledge password _ _ used given ownLocked locked clash =>
    obtain ⟨_, -, differ, -⟩ := clash
    have same : password = locks.password := by
      refine own.password password ?_
      unfold UnlockKeys.requirePassword at given
      split at given
      · next held => exact held.trans (congrArg some (Except.ok.inj given))
      · cases given
    rw [same, ownLocked] at locked
    exact differ (congrArg Octets.bytes (Except.ok.inj locked))
  | biometry used held given holder clash =>
    obtain ⟨_, -, differ, -⟩ := clash
    have same := own.biometry _ (UnlockKeys.require_eq_ok_iff.1 given).1
    rw [holder] at same
    exact differ (Option.some.inj same)

/-- **Whoever unlocks something reaches the keys below the master secret**, or presents a lock that
collides with the holder's. -/
theorem Record.Keeps.eq_or_confuses {record : Record} {h : Handshake} {iv : Octets 16} {s : Session}
    {locks : Session.Locks} {keys : UnlockKeys} {factor : SignatureFactor}
    {found : List SymmetricKey} (k : record.Keeps h iv s.external locks [])
    (unlocks : s.Unlocks record keys factor found) :
    found = h.master.signatureKeys factor ∨ record.Confuses s.external locks keys factor := by
  obtain ⟨lock, external, possession, knowledge, biometry, given, outside, opened, hk, hb, rfl⟩ :=
    unlocks.reached
  obtain rfl : s.external = external := Except.ok.inj (k.externalFor_eq.symm.trans outside)
  have first : possession = h.master.derive KeyIndex.possession
      ∨ record.Confuses s.external locks keys factor :=
    (k.possession.eq_or_collision opened).imp_right (.possession given)
  have second : knowledge = (if factor.usesKnowledge then [h.master.derive KeyIndex.knowledge]
      else []) ∨ record.Confuses s.external locks keys factor := by
    unfold Record.FindsKnowledge at hk
    cases used : factor.usesKnowledge with
    | false =>
      rw [used, if_neg Bool.false_ne_true] at hk
      exact Or.inl hk
    | true =>
      rw [used, if_pos rfl] at hk
      obtain ⟨password, lock, key, given, locked, opened, rfl⟩ := hk
      obtain ⟨own, ownLocked, opens⟩ := k.knowledge
      rcases opens.eq_or_collision opened with rfl | clash
      · exact Or.inl rfl
      · exact Or.inr (.knowledge used given ownLocked locked clash)
  have third : biometry = (if factor.usesBiometry then [h.master.derive KeyIndex.biometry]
      else []) ∨ record.Confuses s.external locks keys factor := by
    unfold Record.FindsBiometry at hb
    cases used : factor.usesBiometry with
    | false =>
      rw [used, if_neg Bool.false_ne_true] at hb
      exact Or.inl hb
    | true =>
      rw [used, if_pos rfl] at hb
      obtain ⟨lock, stored, key, given, held, opened, rfl⟩ := hb
      obtain ⟨own, _, holder, opens, rfl | ⟨_, none, -⟩⟩ := k.biometry stored held
      · rcases opens.eq_or_collision opened with rfl | clash
        · exact Or.inl rfl
        · exact Or.inr (.biometry used held given holder clash)
      · cases none
  rcases first with rfl | clash
  · rcases second with rfl | clash
    · exact third.imp_left fun same => by rw [same]; rfl
    · exact Or.inr clash
  · exact Or.inr clash

end DeviceAuth
