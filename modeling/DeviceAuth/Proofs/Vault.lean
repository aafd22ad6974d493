import DeviceAuth.Proofs.Curve.Ecdsa
import DeviceAuth.Proofs.Session.Agreement

/-!
# The vault, end to end

The device's private key is wrapped under a key that the device does not keep. The server can compute
that key, and sends it under the transport key to whoever has signed a request for it with two factors.
`Session.vault_of_course` follows the private key from the commitment to the unlocked vault: it is the
one of the key exchange, so what the vault signs verifies under the device's public key, and a second
key exchange with it gives the very biometry key that the commitment would have stored.

The activation may have had any life in between. What this takes of `Session.Keeps` is less than signing
does: unlocking only asks that the keys of the factors are opened, not which keys they are, so no vault
that was unlocked earlier can stand in the way. And a biometry key added from this vault is the right
one, whatever was there before (`Record.Keeps.withBiometry`).
-/

set_option autoImplicit false

namespace DeviceAuth

variable {s : Session} {record : Record} {h : Handshake} {iv : Octets 16}
  {external : Option SymmetricKey} {locks : Session.Locks} {vaults : List Vault} {keys : UnlockKeys}
  {factor : SignatureFactor}

/-! ## Unlock keys for some factors -/

/-- Some unlock keys hold the holder's locks of all factors that take part, and nothing but the holder's
locks. -/
structure UnlockKeys.Serve (keys : UnlockKeys) (locks : Session.Locks) (factor : SignatureFactor) :
    Prop where
  own : keys.Own locks
  possession : keys.possession.isSome = true
  password : factor.usesKnowledge = true → keys.password.isSome = true
  biometry : factor.usesBiometry = true → keys.biometry.isSome = true

namespace UnlockKeys

theorem Own.validate (own : keys.Own locks) (usable : locks.Usable) : keys.validate = .ok () := by
  have possession : ∃ given, checkGiven .possession keys.possession = .ok given := by
    cases given : keys.possession with
    | none => exact ⟨none, rfl⟩
    | some bytes =>
      have checked : checkKey .possession bytes = .ok locks.possession :=
        checkKey_eq_ok_iff.2 ⟨own.possession bytes given, usable.possession⟩
      exact ⟨some locks.possession, congrArg (Except.map some) checked⟩
  have biometry : ∃ given, checkGiven .biometry keys.biometry = .ok given := by
    cases given : keys.biometry with
    | none => exact ⟨none, rfl⟩
    | some bytes =>
      obtain ⟨lock, held, same⟩ := Option.map_eq_some_iff.1 (own.biometry bytes given)
      have checked : checkKey .biometry bytes = .ok lock :=
        checkKey_eq_ok_iff.2 ⟨same.symm, usable.biometry lock held⟩
      exact ⟨some lock, congrArg (Except.map some) checked⟩
  obtain ⟨_, possession⟩ := possession
  obtain ⟨_, biometry⟩ := biometry
  exact except_bind_eq_ok_iff.2 ⟨_, possession, except_bind_eq_ok_iff.2 ⟨_, biometry, rfl⟩⟩

theorem Serve.require_possession (serve : keys.Serve locks factor) (usable : locks.Usable) :
    require .possession keys.possession = .ok locks.possession := by
  obtain ⟨bytes, given⟩ := Option.isSome_iff_exists.1 serve.possession
  rw [require_eq_ok_iff, given, serve.own.possession bytes given]
  exact ⟨rfl, usable.possession⟩

end UnlockKeys

namespace Record.Keeps

/-- **The holder's keys unlock a combination of factors that is stored**, whatever they find there. -/
theorem exists_unlocks (k : record.Keeps h iv s.external locks vaults) (usable : locks.Usable)
    (serve : keys.Serve locks factor)
    (stored : factor.usesBiometry = true → record.hasBiometry = true) :
    ∃ found, s.Unlocks record keys factor found := by
  have knowledge : ∃ found, record.FindsKnowledge s.external keys factor.usesKnowledge found := by
    unfold FindsKnowledge
    cases used : factor.usesKnowledge with
    | false => exact ⟨[], rfl⟩
    | true =>
      obtain ⟨password, given⟩ := Option.isSome_iff_exists.1 (serve.password used)
      obtain rfl := serve.own.password password given
      obtain ⟨lock, locked, opens⟩ := k.knowledge
      have required : keys.requirePassword = .ok locks.password := by
        rw [UnlockKeys.requirePassword, given]
      exact ⟨_, _, lock, _, required, locked, opens, rfl⟩
  have biometry : ∃ found, record.FindsBiometry s.external keys factor.usesBiometry found := by
    unfold FindsBiometry
    cases used : factor.usesBiometry with
    | false => exact ⟨[], rfl⟩
    | true =>
      obtain ⟨kept, held⟩ := Option.isSome_iff_exists.1 (stored used)
      obtain ⟨lock, key, holder, opens, -⟩ := k.biometry kept held
      obtain ⟨bytes, given⟩ := Option.isSome_iff_exists.1 (serve.biometry used)
      have same := serve.own.biometry bytes given
      rw [holder] at same
      have required : UnlockKeys.require .biometry keys.biometry = .ok lock := by
        rw [UnlockKeys.require_eq_ok_iff, given, ← Option.some.inj same]
        exact ⟨rfl, usable.biometry lock holder⟩
      exact ⟨_, lock, kept, key, required, held, opens, rfl⟩
  obtain ⟨_, knowledge⟩ := knowledge
  obtain ⟨_, biometry⟩ := biometry
  exact ⟨_, serve.own.validate usable, _, _, _, _, _, serve.require_possession usable,
    k.externalFor_eq, k.possession, knowledge, biometry, rfl⟩

theorem unlocks_transport (k : record.Keeps h iv s.external locks vaults) (usable : locks.Usable)
    (serve : keys.Serve locks factor) :
    (s.unlockTransportKey record keys).Returns (h.master.derive KeyIndex.transport) := by
  intro a
  rw [Session.gives_unlockTransportKey]
  exact ⟨⟨serve.own.validate usable, _, _, serve.require_possession usable, k.externalFor_eq,
    k.transport⟩, rfl⟩

/-- A record is in step with no regard to vaults that were not mistaken. -/
theorem faithful (k : record.Keeps h iv external locks vaults)
    (right : ∀ vault ∈ vaults, ¬h.Mistakes iv vault) : record.Keeps h iv external locks [] := by
  refine { k with biometry := ?_ }
  intro stored held
  obtain ⟨lock, key, given, opens, same | ⟨vault, unlocked, mistaken⟩⟩ := k.biometry stored held
  · exact ⟨lock, key, given, opens, .inl same⟩
  · exact absurd mistaken (right vault unlocked)

/-- The biometry key below the master secret takes the place of whatever was there. -/
theorem withBiometry {lock : SymmetricKey} {stored : StoredKey} {a a' : Ambient}
    (k : record.Keeps h iv external locks vaults)
    (kept : (StoredKey.protect (h.master.derive KeyIndex.biometry) lock external).Gives a stored a') :
    ({ record with keys := { record.keys with biometry := some stored } } : Record).Keeps h iv
      external { locks with biometry := some lock } [] := by
  refine { k with biometry := ?_, keysFit := { k.keysFit with biometry := ?_ } }
  · rintro _ ⟨⟩
    exact ⟨lock, _, rfl, StoredKey.opens_protected kept, .inl rfl⟩
  · rintro _ ⟨⟩
    exact StoredKey.fits_protected kept

end Record.Keeps

/-! ## Unlocking the vault -/

namespace Vault

/-- The vault key as a server sends it. -/
def sent (transport key : SymmetricKey) : String :=
  Text.Base64.encode (Cbc.encryptFilled transport .zero key.bytes)

theorem decryptKey_sent (transport key : SymmetricKey) :
    decryptKey transport (sent transport key) = .ok key := by
  unfold decryptKey sent
  rw [Text.Base64.decode_encode]
  refine except_bind_eq_ok_iff.2 ⟨_, rfl, ?_⟩
  refine except_bind_eq_ok_iff.2 ⟨_, Cbc.decrypt_encryptFilled transport .zero key.bytes, ?_⟩
  simp

variable {authorization : VaultAuthorization} {encrypted : String} {key : SymmetricKey} {pair : KeyPair}

/-- **The vault is unlocked** with the key that was sent, if it opens the device's private key. -/
theorem exists_gives_unlock {transport : SymmetricKey} {found : List SymmetricKey} {plain : Bytes}
    (active : s.activeRecord = .ok record)
    (named : authorization.signature.activationId = record.activationId)
    (factors : 2 ≤ authorization.factor.count)
    (unlocks : s.Unlocks record keys authorization.factor found)
    (reached : (s.unlockTransportKey record keys).Returns transport)
    (decrypted : decryptKey transport encrypted = .ok key)
    (opened : KeyWrap.reveal key.bytes record.devicePrivate = .ok plain)
    (read : KeyPair.ofBytes plain = .ok pair) (a : Ambient) :
    ∃ a', (unlock s authorization keys encrypted).Gives a ⟨record.activationId, key, pair⟩ a' := by
  have enough : ¬authorization.factor.count < 2 := by omega
  obtain ⟨⟨valid, lock, external, given, outside, opens⟩, -⟩ :=
    Session.gives_unlockTransportKey.1 (reached a)
  unfold unlock
  simp [active, named, enough]
  exact ⟨⟨found, unlocks⟩, transport, ⟨valid, lock, given, external, outside, opens⟩, decrypted,
    plain, opened, read⟩

theorem gives_deriveOnce {vault : Vault} {a a' : Ambient} (index : UInt64)
    (unlocked : (unlock s authorization keys encrypted).Gives a vault a') :
    (deriveOnce s authorization keys encrypted index).Gives a (vault.derive index) a' := by
  unfold deriveOnce
  exact Core.gives_bind.2 ⟨vault, a', unlocked, Core.gives_pure.2 ⟨rfl, rfl⟩⟩

end Vault

/-! ## Signing with what was added -/

namespace Session

theorem gives_ask {α : Type} {question : Session → Core α} {answer : α} {a a' : Ambient}
    (answered : (question s).Gives a answer a') : (ask question).Gives s a answer s a' := by
  unfold ask
  rw [Change.gives_object_bind]
  exact Change.gives_liftM.2 ⟨answered, rfl⟩

/-- The holder of the locks signs for a server that knows this master secret: all that is signed with
the holder's keys passes there, and it is signed as long as there is a counter. -/
structure SignsFor (s : Session) (record : Record) (locks : Locks) (master : SymmetricKey) : Prop where
  passes : ∀ (request : Request) (keys : UnlockKeys) (factor : SignatureFactor)
    (signature : RequestSignature) (after : Session) (a a' : Ambient), keys.Own locks →
    (sign request keys factor).Gives s a signature after a' →
    signature.factor = factor
      ∧ signature.PassesWith master request record.counter s.setup.applicationSecret
  signs : ∀ (request : Request) (keys : UnlockKeys) (factor : SignatureFactor) (next : Counter)
    (a : Ambient), keys.Serve locks factor →
    (factor.usesBiometry = true → record.hasBiometry = true) → request.validate = .ok () →
    request.isOffline = false → record.counter.next = .ok next →
    ∃ signature after a', (sign request keys factor).Gives s a signature after a'

namespace Keeps

theorem faithful (k : s.Keeps h iv locks vaults) (active : s.activeRecord = .ok record)
    (right : ∀ vault ∈ vaults,
      ¬KeyWrap.Collision (h.master.derive KeyIndex.vault).bytes vault.key.bytes record.devicePrivate) :
    s.Keeps h iv locks [] := by
  rw [(k.of_active active).devicePrivate] at right
  exact ⟨k.usable, fun _ none => absurd none List.not_mem_nil, k.settled,
    fun record stage => (k.record record stage).faithful right⟩

/-- **The holder's keys unlock the vault** with the vault key that the server sends. -/
theorem exists_gives_unlock {authorization : VaultAuthorization} (k : s.Keeps h iv locks vaults)
    (active : s.activeRecord = .ok record)
    (named : authorization.signature.activationId = h.activationId)
    (factors : 2 ≤ authorization.factor.count) (serve : keys.Serve locks authorization.factor)
    (stored : authorization.factor.usesBiometry = true → record.hasBiometry = true) (a : Ambient) :
    ∃ a', (Vault.unlock s authorization keys
      (Vault.sent (h.master.derive KeyIndex.transport) (h.master.derive KeyIndex.vault))).Gives a
        ⟨record.activationId, h.master.derive KeyIndex.vault, h.pair⟩ a' := by
  have own := k.of_active active
  obtain ⟨found, unlocks⟩ := own.exists_unlocks k.usable serve stored
  have reached := own.unlocks_transport k.usable serve
  have decrypted := Vault.decryptKey_sent (h.master.derive KeyIndex.transport)
    (h.master.derive KeyIndex.vault)
  exact Vault.exists_gives_unlock active (named.trans own.activationId.symm) factors unlocks reached
    decrypted own.reveal_devicePrivate h.pair.ofBytes_privateBytes a

theorem signsFor (k : s.Keeps h iv locks []) (active : s.activeRecord = .ok record) :
    s.SignsFor record locks h.master := by
  constructor
  · intro request keys factor signature after a a' own signed
    obtain ⟨found, same, header, passes⟩ := k.passes_of_sign signed
    obtain rfl := Except.ok.inj (active.symm.trans same)
    exact ⟨header, passes.resolve_right own.not_confuses⟩
  · intro request keys factor next a serve stored valid online counter
    obtain ⟨found, unlocks⟩ := (k.of_active active).exists_unlocks k.usable serve stored
    obtain ⟨signature, a', signed⟩ := exists_gives_sign active counter valid online unlocks a
    exact ⟨signature, _, a', signed⟩

/-- **A vault that holds the device's key pair adds the biometry key below the master secret**, and puts
the session in step with the new lock, with no regard to the vaults before. -/
theorem exists_gives_addBiometry {vault : Vault} {lock : SymmetricKey} (k : s.Keeps h iv locks vaults)
    (exchanged : h.Exchanged) (active : s.activeRecord = .ok record)
    (named : vault.activationId = h.activationId) (own : vault.pair = h.pair)
    (valid : keys.validate = .ok ())
    (given : UnlockKeys.require .biometry keys.biometry = .ok lock) (a : Ambient) :
    ∃ added present a', (vault.addBiometry keys).Gives s a () added a'
      ∧ added.activeRecord = .ok present ∧ present.hasBiometry = true
      ∧ added.Keeps h iv { locks with biometry := some lock } [] := by
  have before := k.of_active active
  have key : PublicKey.ofBytes record.serverKey = .ok h.serverKey := by
    rw [before.serverKey, PublicKey.ofBytes_bytes]
  have same : record.activationId = vault.activationId := before.activationId.trans named.symm
  have secret : Kdf.reduce (vault.pair.sharedSecret h.serverKey) = h.master := by
    rw [own, exchanged]
  obtain ⟨stored, a', kept⟩ :=
    StoredKey.sure_protect (h.master.derive KeyIndex.biometry) lock s.external a
  let added := s.at (.activated { record with keys := { record.keys with biometry := some stored } })
  have usable : ({ locks with biometry := some lock } : Locks).Usable := by
    refine { k.usable with biometry := ?_ }
    rintro _ ⟨⟩
    exact (UnlockKeys.require_eq_ok_iff.1 given).2
  have gives : ∃ a', (vault.addBiometry keys).Gives s a () added a' := by
    unfold Vault.addBiometry Session.storeBiometry
    simp [active, same, valid, given, key, secret, before.externalFor_eq]
    refine ⟨stored, ⟨a', kept⟩, ?_⟩
    rw [← same]
  obtain ⟨_, gives⟩ := gives
  have still : added.activeRecord = .ok _ :=
    activeRecord_eq_ok_iff.2 ⟨rfl, (activeRecord_eq_ok_iff.1 active).2⟩
  refine ⟨added, _, _, gives, still, rfl, usable, fun _ none => absurd none List.not_mem_nil, rfl, ?_⟩
  rintro _ ⟨⟩
  exact before.withBiometry kept

end Keeps

/-! ## From the commitment to the vault -/

/-- A vault is asked for with two factors or more, under the identifier of the activation. -/
theorem Keeps.authorization_of_requestVault {request : Request} {authorization : VaultAuthorization}
    {s' : Session} {a a' : Ambient} (k : s.Keeps h iv locks vaults)
    (asked : (requestVault request keys factor).Gives s a authorization s' a') :
    authorization.signature.activationId = h.activationId ∧ authorization.factor = factor
      ∧ 2 ≤ factor.count := by
  cases Transition.of_requestVault asked with
  | vaultRequested factors signs =>
    obtain ⟨-, named, -, same⟩ := signs.header
    exact ⟨named.trans (k.of_active signs.active).activationId, same, factors⟩
  | observed observes => cases observes

theorem exists_gives_requestVault {next : Counter} {request : Request} {found : List SymmetricKey}
    (active : s.activeRecord = .ok record) (counter : record.counter.next = .ok next)
    (valid : request.validate = .ok ()) (online : request.isOffline = false)
    (factors : 2 ≤ factor.count) (unlocks : s.Unlocks record keys factor found) (a : Ambient) :
    ∃ authorization a', (requestVault request keys factor).Gives s a authorization
      (s.at (.activated { record with counter := next })) a' := by
  have enough : ¬factor.count < 2 := by omega
  obtain ⟨signature, a', signed⟩ := exists_gives_sign active counter valid online unlocks a
  unfold requestVault
  simp [active, enough]
  exact ⟨a', signature, signed⟩

/-- **The vault from end to end.** A session has exchanged keys with a server and committed the
activation; at some moment of its life the vault key is asked for. At whatever moment the activation can
be used and the keys of those factors are stored, unlock keys that hold the locks of that moment unlock
the vault with the vault key the server sends, and the session stays as it is. What the vault derives is
derived from the server's vault key, and what it signs verifies under the device key in the record.

The vault adds a biometry key under any lock, at any moment of the life. From then on, the holder's
signatures pass with the server, and biometry can be one of their factors, for as long as no vault is
unlocked with a wrong key that makes the right tag. -/
theorem vault_of_course {empty first asking asked : Session} {calls : List Call} {server : KeyPair}
    {commitKeys requestKeys : UnlockKeys} {initial earlier : Locks} {before : List Vault}
    {request : Request} {authorization : VaultAuthorization} {a a' b b' : Ambient}
    (new : empty.stage = .empty) (established : (empty.after calls).stage = .established h)
    (honest : h.serverKey = server.publicKey)
    (short : (Bytes.ofText h.activationId).length < 2 ^ 64)
    (accepted : Session.locks commitKeys = .ok initial)
    (committed : (commit commitKeys).Gives (empty.after calls) a () first a')
    (life : Course first initial asking earlier before)
    (authorized : (requestVault request requestKeys factor).Gives asking b authorization asked b')
    (course : Course first initial s locks vaults) (active : s.activeRecord = .ok record)
    (stored : factor.usesBiometry = true → record.hasBiometry = true)
    (serve : keys.Serve locks factor) :
    let master := Kdf.reduce (server.sharedSecret h.pair.publicKey)
    let vaultKey := master.derive KeyIndex.vault
    let sent := Vault.sent (master.derive KeyIndex.transport) vaultKey
    ∃ (vault : Vault) (deviceKey : PublicKey),
      (∀ a, ∃ a', (Operation.unlockVault authorization keys sent).run.Gives s a (.vault vault) s a')
      ∧ (∀ index, vault.derive index = vaultKey.derive index ∧ ∀ a, ∃ a',
        (Operation.deriveOnce authorization keys sent index).run.Gives s a
          (.key (vaultKey.derive index)) s a')
      ∧ PublicKey.ofBytes record.deviceKey = .ok deviceKey
      ∧ (∀ data, Ecdsa.verifies deviceKey data (vault.sign data) = true)
      ∧ ∀ (moment : Session) (own : Locks) (others : List Vault) (held : Record) (more : UnlockKeys)
          (lock : SymmetricKey) (a : Ambient),
        Course first initial moment own others → moment.activeRecord = .ok held →
        more.validate = .ok () → UnlockKeys.require .biometry more.biometry = .ok lock →
        ∃ added renewed a', (vault.addBiometry more).Gives moment a () added a'
          ∧ added.activeRecord = .ok renewed ∧ renewed.hasBiometry = true
          ∧ ∀ (current : Session) (now : Locks) (since : List Vault) (present : Record),
            Course added { own with biometry := some lock } current now since →
            current.activeRecord = .ok present →
            (∀ vault ∈ since, ¬KeyWrap.Collision vaultKey.bytes vault.key.bytes present.devicePrivate) →
            current.SignsFor present now master := by
  intro master vaultKey sent
  obtain ⟨h', iv, exchange, start⟩ := keeps_of_commit accepted committed
  obtain rfl := Stage.established.inj (established.symm.trans exchange)
  have exchanged := exchanged_after new established
  have secret : master = h.master := by
    rw [exchanged, honest, h.pair.sharedSecret_comm server]
  clear_value master
  subst secret
  obtain ⟨named, rfl, factors⟩ :=
    (life.keeps exchanged short start).authorization_of_requestVault authorized
  have k := course.keeps exchanged short start
  have own := k.of_active active
  have unlocked := k.exists_gives_unlock active named factors serve stored
  let vault : Vault := ⟨record.activationId, vaultKey, h.pair⟩
  refine ⟨vault, h.pair.publicKey, ?_, ?_, ?_, ?_, ?_⟩
  · intro a
    obtain ⟨a', gives⟩ := unlocked a
    exact ⟨a', Change.gives_map.2 ⟨vault, gives_ask gives, rfl⟩⟩
  · intro index
    refine ⟨rfl, ?_⟩
    intro a
    obtain ⟨a', gives⟩ := unlocked a
    exact ⟨a', Change.gives_map.2 ⟨_, gives_ask (Vault.gives_deriveOnce index gives), rfl⟩⟩
  · rw [own.deviceKey, PublicKey.ofBytes_bytes]
  · intro data
    exact Ecdsa.verifies_sign h.pair data
  · intro moment holder others held more lock a course active valid given
    have before := course.keeps exchanged short start
    have belongs : vault.activationId = h.activationId := own.activationId
    obtain ⟨added, renewed, a', gives, still, has, kept⟩ :=
      before.exists_gives_addBiometry exchanged active belongs rfl valid given a
    refine ⟨added, renewed, a', gives, still, has, ?_⟩
    intro current now since present course active right
    exact ((course.keeps exchanged short kept).faithful active right).signsFor active

/-- The vault of a new activation: it is asked for, unlocked, and adds a biometry key. -/
theorem vault_of_fresh :
    let a : Ambient := ⟨⟨[], 7⟩, 0, []⟩
    let keys : UnlockKeys := ⟨some SymmetricKey.ones.bytes, none, some ⟨[1, 2, 3, 4]⟩⟩
    let more : UnlockKeys := ⟨none, some SymmetricKey.ones.bytes, none⟩
    ∃ first asked authorization b master vault deviceKey b' record added renewed c,
      (requestVault ⟨"POST", "/vault", [], none⟩ keys .possessionKnowledge).Gives first a authorization
        asked b
      ∧ (Operation.unlockVault authorization keys (Vault.sent (master.derive KeyIndex.transport)
        (master.derive KeyIndex.vault))).run.Gives asked a (.vault vault) asked b'
      ∧ asked.activeRecord = .ok record ∧ PublicKey.ofBytes record.deviceKey = .ok deviceKey
      ∧ Ecdsa.verifies deviceKey [1, 2, 3] (vault.sign [1, 2, 3]) = true
      ∧ (vault.addBiometry more).Gives asked a () added c
      ∧ added.activeRecord = .ok renewed ∧ renewed.hasBiometry = true
      ∧ added.SignsFor renewed ⟨.ones, ⟨[1, 2, 3, 4]⟩, some .ones⟩ master := by
  intro a keys more
  let locks : Locks := ⟨.ones, ⟨[1, 2, 3, 4]⟩, none⟩
  have named : "activation" ≠ "" := by decide
  have valid : ∀ data, (none : Option RecoveryData) = some data → data.IsValid :=
    fun _ given => by cases given
  obtain ⟨pair, same⟩ :=
    exists_after_exchange .unit .zero ((counting 0).at_stage .empty) named valid a a
  have established := congrArg Session.stage same
  rw [at_stage] at established
  have accepted : Session.locks keys = .ok locks := rfl
  have short : (Bytes.ofText "activation").length < 2 ^ 64 := by decide
  obtain ⟨first, a', committed⟩ := exists_gives_commit established accepted a
  obtain ⟨record, data, active, counter⟩ := exists_activeRecord_of_commit committed
  obtain ⟨h, iv, -, k⟩ := keeps_of_commit accepted committed
  have next : record.counter.next = .ok (.hashed (Counter.hashStep data)) := by
    rw [counter]
    rfl
  have serve : keys.Serve locks .possessionKnowledge :=
    ⟨Locks.own_unlockKeys locks, rfl, fun _ => rfl, nofun⟩
  obtain ⟨found, unlocks⟩ := (k.of_active active).exists_unlocks k.usable serve nofun
  have request : (⟨"POST", "/vault", [], none⟩ : Request).validate = .ok () := rfl
  obtain ⟨authorization, b, authorized⟩ :=
    exists_gives_requestVault active next request rfl (by decide) unlocks a
  have turned : (Operation.requestVault ⟨"POST", "/vault", [], none⟩ keys .possessionKnowledge).run.Gives
      first a _ _ b := Change.gives_map.2 ⟨authorization, authorized, rfl⟩
  have later : Course first locks _ locks [] := .used .start rfl turned
  have unblocked := (activeRecord_eq_ok_iff.1 active).2
  let moved : Record := { record with counter := .hashed (Counter.hashStep data) }
  have still : (first.at (.activated moved)).activeRecord = .ok moved :=
    activeRecord_eq_ok_iff.2 ⟨rfl, unblocked⟩
  obtain ⟨vault, deviceKey, unlocked, -, read, signs, adds⟩ :=
    vault_of_course rfl established rfl short accepted committed .start authorized later still nofun serve
  obtain ⟨b', unlocked⟩ := unlocked a
  obtain ⟨added, renewed, c, gives, current, has, passes⟩ :=
    adds _ locks [] _ more .ones a later still rfl rfl
  have own := passes added _ [] renewed .start current fun _ none => absurd none List.not_mem_nil
  exact ⟨_, _, _, _, _, _, _, _, _, _, _, _, authorized, unlocked, still, read, signs _, gives, current,
    has, own⟩

end Session

end DeviceAuth
