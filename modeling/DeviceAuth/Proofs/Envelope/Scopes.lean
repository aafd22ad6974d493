import DeviceAuth.Proofs.Envelope.Channel
import DeviceAuth.Proofs.Session.Course
import DeviceAuth.Proofs.Session.External

/-!
# The two scopes of an envelope

A session makes encryptors of two scopes. One seals messages of the application, for whoever has the
server's master key pair and knows the secret of the application. The other seals messages of an
activation, for the server that has exchanged keys with this device, and binds them to the transport
key. The device reaches that key in a record, under locks, and perhaps long after the key exchange; the
server computes it from its own half of the exchange.

`Session.scopes_meet` says that either way the two sides understand each other: what they need for that
is one public key and both shared informations, and nothing that happens to a session changes what it
takes them from.
-/

set_option autoImplicit false

namespace DeviceAuth

open Envelope

/-! ## Sides that share their information -/

namespace Channel

/-- Whether something called replaces a shared information. -/
def Action.informs : Action → Bool
  | encryptorInfo1 _ => true
  | encryptorInfo2 _ => true
  | decryptorInfo1 _ => true
  | decryptorInfo2 _ => true
  | _ => false

/-- Both sides have the same shared informations. -/
structure Shares (ch : Channel) : Prop where
  info1 : ch.encryptor.info1 = ch.decryptor.info1
  info2 : ch.encryptor.info2 = ch.decryptor.info2

/-- The two sides understand each other from here on: whatever the device seals next is opened by the
server, and whatever the server seals as a response is opened by the device. -/
def Meets (ch : Channel) : Prop :=
  ∀ plaintext a, ∃ c e a' d, (Encryptor.encryptRequest plaintext).Gives ch.encryptor a c e a'
    ∧ (∀ b, (Decryptor.decryptRequest c).Gives ch.decryptor b plaintext d b)
    ∧ ∀ answer b, ∃ r b', (d.encryptResponse answer).Gives b r b' ∧ (e.decryptResponse r).Returns answer

variable {server : KeyPair} {ch ch' start : Channel} {action : Action} {result : Except Failure Reply}
  {sent received : Option (Cryptogram × Bytes)}

theorem Tracks.meets (t : ch.Tracks server sent received) (shares : ch.Shares) : ch.Meets := by
  intro plaintext a
  obtain ⟨c, e, a', sealing⟩ := Encryptor.exists_gives_encryptRequest t.publicKey plaintext a
  obtain ⟨k, iv, found, closed, rfl⟩ := Encryptor.keys_of_encryptRequest t.publicKey sealing
  refine ⟨c, _, a', { ch.decryptor with keys := some k }, sealing, fun b => ?_, fun answer b => ?_⟩
  · have read := contents_of_eq_sealed closed
    rw [shares.info1, ← t.pair] at found
    rw [shares.info2] at read
    exact Decryptor.gives_decryptRequest.2 ⟨k, found, read, rfl, rfl⟩
  · have read := contents_sealed k none (b.entropy.draw 16).1 ch.encryptor.info2 answer
    refine ⟨_, _, Decryptor.gives_encryptResponse.2 ⟨k, rfl, rfl, rfl⟩, fun b' => ?_⟩
    rw [← shares.info2]
    exact Encryptor.gives_decryptResponse.2 ⟨k, rfl, read, rfl⟩

theorem Step.shares (s : Step server ch action result ch') (quiet : action.informs = false)
    (shares : ch.Shares) : ch'.Shares := by
  obtain ⟨info1, info2⟩ := shares
  cases s with
  | encryptorInfo1 | encryptorInfo2 | decryptorInfo1 | decryptorInfo2 => cases quiet
  | _ => exact ⟨info1, info2⟩

/-- **Sides that start with one public key and the same informations always understand each other**, as
long as no information is replaced, whatever messages reach them. -/
theorem Fresh.meets (fresh : start.Fresh server) (shares : start.Shares) {calls : List Call}
    (quiet : ∀ call ∈ calls, call.action.informs = false) : (start.after calls).Meets := by
  suffices shared : (start.after calls).Shares from (fresh.tracks calls).meets shared
  induction calls using List.reverseRecOn with
  | nil => exact shares
  | append_singleton calls call ih =>
    rw [after_concat]
    have last : call.action.informs = false := quiet call (by simp)
    have before := ih fun earlier among => quiet earlier (List.mem_append_left _ among)
    exact ((fresh.tracks calls).takes call).shares last before

end Channel

/-! ## What a session takes its encryptors from -/

/-- A record holds what the messages of an activation are bound to, the transport key under a lock. -/
structure Record.Transports (record : Record) (h : Handshake) (lock : SymmetricKey)
    (external : Option SymmetricKey) : Prop where
  activationId : record.activationId = h.activationId
  serverKey : record.serverKey = h.serverKey.bytes
  usesExternal : record.usesExternal = external.isSome
  transport : record.keys.transport.Opens lock external (h.master.derive KeyIndex.transport)

variable {s first : Session} {h : Handshake} {record : Record} {keys : UnlockKeys}

/-- The external encryption key of the commitment opens the outer layer, if there is one. -/
theorem Record.Transports.externalFor_eq {lock : SymmetricKey} {external : Option SymmetricKey}
    (t : record.Transports h lock external)
    (same : record.usesExternal = true → s.external = external) : s.externalFor record = .ok external := by
  unfold Session.externalFor
  cases external with
  | none => simp [t.usesExternal]
  | some key =>
    have uses : record.usesExternal = true := t.usesExternal
    rw [if_pos uses, same uses]

namespace Session

/-- **The transport key stays where the commitment has put it**, for as long as the activation lasts. -/
theorem Lasts.transports {iv : Octets 16} {locks : Locks} {vaults : List Vault}
    (lasts : first.Lasts s) (k : first.Keeps h iv locks vaults)
    (active : s.activeRecord = .ok record) :
    record.Transports h locks.possession first.external := by
  let Kept (r : Record) : Prop := r.Transports h locks.possession first.external
  have start : first.Carries (fun _ => False) Kept := by
    have settled := k.settled
    unfold Carries
    cases stage : first.stage with
    | activated r =>
      have own := k.record r stage
      exact ⟨own.activationId, own.serverKey, own.usesExternal, own.transport⟩
    | removed => exact True.intro
    | _ =>
      rw [stage] at settled
      cases settled
  have carried : s.Carries (fun _ => False) Kept := by
    refine lasts.carries (fun _ _ _ _ none => none.elim) ?_ start
    intro r next op differs own
    refine ⟨?_, ?_, ?_, ?_⟩
    · exact (differs.unchanged Record.activationId rfl).trans own.activationId
    · exact (differs.unchanged Record.serverKey rfl).trans own.serverKey
    · exact (differs.unchanged Record.usesExternal rfl).trans own.usesExternal
    · rw [differs.unchanged (fun r => r.keys.transport) rfl]
      exact own.transport
  unfold Carries at carried
  rw [(activeRecord_eq_ok_iff.1 active).1] at carried
  exact carried

/-! ## Both scopes -/

/-- The second information of messages of an application. -/
def applicationInfo (secret : String) : Bytes := (sha256 (Bytes.ofText secret)).bytes

/-- The second information of messages of an activation, from the master secret of its key exchange. -/
def activationInfo (master : SymmetricKey) (secret id : String) : Bytes :=
  (hmac (master.derive KeyIndex.transport).bytes (Bytes.ofText secret ++ Bytes.ofText id)).bytes

theorem returns_encryptor_application (s : Session) (keys : UnlockKeys) (info1 : Bytes) :
    (s.encryptor .application keys info1).Returns
      ⟨s.masterKey.bytes, info1, applicationInfo s.setup.applicationSecret, none⟩ :=
  fun _ => Core.gives_pure.2 ⟨rfl, rfl⟩

/-- The holder's possession key is all an encryptor of an activation takes. -/
theorem returns_encryptor_activation {lock : SymmetricKey} {external : Option SymmetricKey}
    (active : s.activeRecord = .ok record) (own : record.Transports h lock external)
    (outside : record.usesExternal = true → s.external = external) (valid : keys.validate = .ok ())
    (held : UnlockKeys.require .possession keys.possession = .ok lock) (info1 : Bytes) :
    (s.encryptor .activation keys info1).Returns
      ⟨h.serverKey.bytes, info1, activationInfo h.master s.setup.applicationSecret h.activationId,
        none⟩ := by
  intro a
  have reached : (s.unlockTransportKey record keys).Gives a (h.master.derive KeyIndex.transport) a :=
    gives_unlockTransportKey.2 ⟨⟨valid, lock, external, held, own.externalFor_eq outside,
      own.transport⟩, rfl⟩
  unfold encryptor
  refine Core.gives_bind.2 ⟨record, a, Core.gives_liftM_checked.2 ⟨active, rfl⟩, ?_⟩
  refine Core.gives_bind.2 ⟨_, a, reached, Core.gives_pure.2 ⟨?_, rfl⟩⟩
  rw [own.serverKey, own.activationId, activationInfo]

/-- **The two scopes of a session are those of its servers.** Whatever was called on a session, its
encryptor of the application is understood by whoever has the private key of the setup's master key and
knows the secret of the application. From a key exchange with a server on, and for as long as the
activation lasts, an encryptor of the activation is made wherever the activation can be used, with the
possession key it was committed with; and it is understood by that server, which computes the second
information from its own half of the exchange. To be understood is to have every request opened, and
every response to it, however many messages of whatever origin were handled before. -/
theorem scopes_meet :
    (∀ (setup : Setup) (created : Session) (calls : List Call) (master : KeyPair) (bytes : Bytes)
        (keys : UnlockKeys) (info1 : Bytes) (a a' : Ambient),
      (create setup).Gives a created a' → Text.Base64.decode setup.masterKey = .ok bytes →
      PublicKey.ofBytes bytes = .ok master.publicKey →
      ∃ e, ((created.after calls).encryptor .application keys info1).Returns e
        ∧ ∀ messages : List Channel.Call, (∀ call ∈ messages, call.action.informs = false) →
          ((Channel.mk e ⟨master, info1, applicationInfo setup.applicationSecret, none⟩).after
            messages).Meets)
    ∧ ∀ (empty first s : Session) (calls : List Call) (h : Handshake) (server : KeyPair)
        (commitKeys keys : UnlockKeys) (locks : Locks) (record : Record) (info1 : Bytes) (a a' : Ambient),
      empty.stage = .empty → (empty.after calls).stage = .established h →
      h.serverKey = server.publicKey → Session.locks commitKeys = .ok locks →
      (commit commitKeys).Gives (empty.after calls) a () first a' → first.Lasts s →
      s.activeRecord = .ok record → (record.usesExternal = true → s.external = first.external) →
      keys.validate = .ok () → keys.possession = some locks.possession.bytes →
      let secret := Kdf.reduce (server.sharedSecret h.pair.publicKey)
      ∃ e, (s.encryptor .activation keys info1).Returns e
        ∧ ∀ messages : List Channel.Call, (∀ call ∈ messages, call.action.informs = false) →
          ((Channel.mk e ⟨server, info1,
            activationInfo secret s.setup.applicationSecret h.activationId, none⟩).after
              messages).Meets := by
  refine ⟨?_, ?_⟩
  · intro setup created calls master bytes keys info1 a a' opened encoded point
    have made := setup_of_create opened
    have same : (created.after calls).setup = setup := by
      rw [after_eq_at created]
      exact made
    have key : (created.after calls).masterKey = master.publicKey :=
      (opened_after (opened_of_create opened) calls).masterKey_eq (same ▸ encoded) point
    refine ⟨_, returns_encryptor_application _ keys info1, fun messages quiet => ?_⟩
    rw [key, same]
    exact Channel.Fresh.meets ⟨master.publicKey.ofBytes_bytes, rfl, rfl, rfl⟩ ⟨rfl, rfl⟩ quiet
  · intro empty first s calls h server commitKeys keys locks record info1 a a' new established honest
      accepted committed lasts active outside valid held secret
    obtain ⟨h', iv, exchange, start⟩ := keeps_of_commit accepted committed
    obtain rfl := Stage.established.inj (established.symm.trans exchange)
    have own : secret = h.master := by
      rw [exchanged_after new established, honest, h.pair.sharedSecret_comm server]
    have given : UnlockKeys.require .possession keys.possession = .ok locks.possession :=
      UnlockKeys.require_eq_ok_iff.2 ⟨held, start.usable.possession⟩
    refine ⟨_, returns_encryptor_activation active (lasts.transports start active) outside valid given
      info1, fun messages quiet => ?_⟩
    rw [own, honest]
    exact Channel.Fresh.meets ⟨server.publicKey.ofBytes_bytes, rfl, rfl, rfl⟩ ⟨rfl, rfl⟩ quiet

/-- Both scopes of a new activation that came back from its octets in a fresh session, the second with
nothing but the possession key. -/
theorem scopes_of_restored :
    let a : Ambient := ⟨⟨[], 7⟩, 0, []⟩
    let setup := (counting 0).setup
    let holder : UnlockKeys := ⟨some SymmetricKey.ones.bytes, none, some ⟨[1, 2, 3, 4]⟩⟩
    let keys : UnlockKeys := ⟨some SymmetricKey.ones.bytes, none, none⟩
    ∃ (created exchanged first s : Session) (record : Record) (secret : SymmetricKey) (e f : Encryptor)
        (a' b b' : Ambient),
      (create setup).Gives a created a'
      ∧ (created.encryptor .application {} [1]).Returns e
      ∧ (Channel.mk e ⟨.unit, [1], applicationInfo setup.applicationSecret, none⟩).Meets
      ∧ (commit holder).Gives exchanged a () first b
      ∧ (deserialize first.serialize).Gives created b () s b' ∧ s.activeRecord = .ok record
      ∧ (s.encryptor .activation keys [2]).Returns f
      ∧ (Channel.mk f ⟨.unit, [2], activationInfo secret setup.applicationSecret "activation", none⟩).Meets := by
  intro a setup holder keys
  obtain ⟨application, activation⟩ := scopes_meet
  have quiet : ∀ call ∈ ([] : List Channel.Call), call.action.informs = false := nofun
  have created : ∃ a', (create setup).Gives a ((counting 0).at .empty) a' := by
    unfold create
    exact ⟨_, Core.gives_bind.2 ⟨_, _, validates_counting 0 a, Core.gives_bind.2
      ⟨(), _, Core.gives_note.2 rfl, Core.gives_pure.2 ⟨rfl, rfl⟩⟩⟩⟩
  obtain ⟨a', created⟩ := created
  obtain ⟨e, made, understood⟩ := application setup _ [] .unit _ {} [1] a a' created
    KeyPair.unit.publicKey.decode_base64 KeyPair.unit.publicKey.ofBytes_bytes
  have named : "activation" ≠ "" := by decide
  have valid : ∀ data, (none : Option RecoveryData) = some data → data.IsValid :=
    fun _ given => by cases given
  obtain ⟨pair, same⟩ :=
    exists_after_exchange .unit .zero ((counting 0).at_stage .empty) named valid a a
  have established := congrArg Session.stage same
  rw [at_stage] at established
  have accepted : Session.locks holder = .ok ⟨.ones, ⟨[1, 2, 3, 4]⟩, none⟩ := rfl
  obtain ⟨first, b, committed⟩ := exists_gives_commit established accepted a
  obtain ⟨record, -, active, -⟩ := exists_activeRecord_of_commit committed
  obtain ⟨h, iv, exchanged, k⟩ := keeps_of_commit accepted committed
  obtain rfl := Stage.established.inj (established.symm.trans exchanged)
  have short : (Bytes.ofText "activation").length < 2 ^ 64 := by decide
  obtain ⟨b', taken⟩ := k.exists_gives_deserialize short ((counting 0).at .empty) b
  have lasts : first.Lasts (((counting 0).at .empty).at first.stage) :=
    Lasts.start.restored k.settled (k.fits short) taken
  have still : (((counting 0).at .empty).at first.stage).activeRecord = .ok record :=
    activeRecord_eq_ok_iff.2 (activeRecord_eq_ok_iff.1 active)
  have without : first.external = none := by
    cases Transition.of_commit committed with
    | committed =>
      rw [at_external, same]
      rfl
    | observed observes => cases observes
  have plain : record.usesExternal = true → (((counting 0).at .empty).at first.stage).external
      = first.external := by
    intro uses
    rw [(k.of_active active).usesExternal, without] at uses
    cases uses
  obtain ⟨f, sealing, heard⟩ := activation _ first _ _ _ .unit holder keys _ record [2] a b rfl established
    rfl accepted committed lasts still plain rfl rfl
  exact ⟨_, _, first, _, record, _, e, f, a', b, b', created, made, understood [] quiet, committed, taken,
    still, sealing, heard [] quiet⟩

end Session

end DeviceAuth
