import DeviceAuth.Proofs.Code.Mark
import DeviceAuth.Proofs.Session.Operation
import DeviceAuth.Proofs.Session.Unlock
import DeviceAuth.Proofs.Signature

/-!
# What an operation does when it ends well

`Transition s op reply s'` lists, once and for all, everything an operation that ended well can have
done to a session: what it found there, what it checked, and what it put in place. There is a case
for each way an operation ends, and one for all operations that only look.

`Transition.of_gives` is the only place where the operations are taken apart. What holds along every
history is proved from the cases here, so a change to one operation is a change to one case.
-/

set_option autoImplicit false

namespace DeviceAuth

/-! ## Signed requests -/

/-- A request was signed online: with the keys some unlock keys reach in the active record, over the
canonical data at that record's counter. -/
structure Session.Signs (s : Session) (request : Request) (keys : UnlockKeys)
    (factor : SignatureFactor) (record : Record) (next : Counter) (signature : RequestSignature) :
    Prop where
  active : s.activeRecord = .ok record
  counter : record.counter.next = .ok next
  valid : request.validate = .ok ()
  online : request.isOffline = false
  nonce : ∃ octets : Octets Request.nonceSize, signature.nonce = Text.Base64.encode octets.bytes
  value : ∃ found, s.Unlocks record keys factor found
    ∧ Signature.compute found record.counter record.version
        (Bytes.ofText (request.onlineText signature.nonce record.counter s.setup.applicationSecret))
      = .ok signature.value
  header : signature.version = record.version.header
    ∧ signature.activationId = record.activationId
    ∧ signature.applicationKey = s.setup.applicationKey ∧ signature.factor = factor

/-- A session with another stage. -/
def Session.at (s : Session) (stage : Stage) : Session := { s with stage }

section

variable {s s' : Session} {a a' : Ambient}

@[simp] theorem Session.at_stage (s : Session) (stage : Stage) : (s.at stage).stage = stage := rfl

@[simp] theorem Session.at_setup (stage : Stage) : (s.at stage).setup = s.setup := rfl

@[simp] theorem Session.at_masterKey (stage : Stage) : (s.at stage).masterKey = s.masterKey := rfl

@[simp] theorem Session.at_external (stage : Stage) : (s.at stage).external = s.external := rfl

@[simp] theorem Session.gives_enter {stage : Stage} {u : Unit} :
    (Session.enter stage).Gives s a u s' a' ↔ s' = s.at stage ∧ a' = a := by
  unfold Session.enter
  rw [Change.gives_object_bind, Change.gives_become]
  rfl

@[simp] theorem Session.gives_setRecord {record : Record} {u : Unit} :
    (Session.setRecord record).Gives s a u s' a' ↔ s' = s.at (.activated record) ∧ a' = a :=
  Session.gives_enter

theorem Session.signs_of_gives {request : Request} {keys : UnlockKeys} {factor : SignatureFactor}
    {signature : RequestSignature}
    (h : (Session.sign request keys factor).Gives s a signature s' a') :
    ∃ record counter, s.Signs request keys factor record counter signature
      ∧ s' = s.at (.activated { record with counter }) := by
  unfold Session.sign at h
  simp [and_assoc] at h
  obtain ⟨record, active, counter, next, ⟨_, valid⟩, online, found, unlocked, value, computed, -, rfl,
    rfl⟩ := h
  exact ⟨record, counter,
    ⟨active, next, valid, online, ⟨_, rfl⟩, ⟨found, unlocked, computed⟩, rfl, rfl, rfl, rfl⟩, rfl⟩

/-- A request that may be signed online is signed by unlock keys that reach their factor keys. -/
theorem Session.exists_gives_sign {record : Record} {next : Counter} {request : Request}
    {keys : UnlockKeys} {factor : SignatureFactor} {found : List SymmetricKey}
    (active : s.activeRecord = .ok record) (counter : record.counter.next = .ok next)
    (valid : request.validate = .ok ()) (online : request.isOffline = false)
    (unlocks : s.Unlocks record keys factor found) (a : Ambient) :
    ∃ signature a', (Session.sign request keys factor).Gives s a signature
      (s.at (.activated { record with counter := next })) a' := by
  let nonce := Text.Base64.encode (a.entropy.draw 16).1.bytes
  obtain ⟨value, computed⟩ := Signature.exists_compute unlocks.length record.counter
    (Bytes.ofText (request.onlineText nonce record.counter s.setup.applicationSecret))
  unfold Session.sign
  simp [and_assoc, active, valid, online]
  exact ⟨next, counter, found, unlocks, ⟨value, computed⟩, rfl⟩

end

/-! ## Transitions -/

/-- An operation that ended well with `reply` took a session from `s` to `s'`. -/
inductive Transition (s : Session) : Operation → Reply → Session → Prop
  | begun {code : Option ActivationCode} {pair : KeyPair} (empty : s.stage = .empty) :
    Transition s (.begin code) (.request ⟨pair.publicKey.base64, none⟩) (s.at (.begun pair none))
  | begunRecovery {code puk : String} {pair : KeyPair} {recovery : RecoveryData}
      (empty : s.stage = .empty) :
    Transition s (.beginRecovery code puk)
      (.request ⟨pair.publicKey.base64, some recovery.identity⟩) (s.at (.begun pair (some recovery)))
  | established {answer : ActivationAnswer} {pair : KeyPair} {recovery : Option RecoveryData}
      {keyBytes : Bytes} {serverKey : PublicKey} {counterData : Octets 16}
      (begun : s.stage = .begun pair recovery) (named : answer.activationId ≠ "")
      (encoded : Text.Base64.decode answer.serverKey = .ok keyBytes)
      (key : PublicKey.ofBytes keyBytes = .ok serverKey)
      (counter : Text.Base64.decodeOctets 16 answer.counterData = .ok counterData) :
    Transition s (.establish answer)
      (.outcome ⟨fingerprint pair.publicKey.bytes answer.activationId serverKey.bytes,
        answer.recovery⟩)
      (s.at (.established (Session.exchange pair answer serverKey counterData)))
  | committed {keys : UnlockKeys} {h : Handshake} {locks : Session.Locks} {stored : FactorKeys}
      {iv : Octets 16} {a₁ a₂ : Ambient} (established : s.stage = .established h)
      (accepted : Session.locks keys = .ok locks)
      (kept : (Session.storeKeys h.master locks s.external).Gives a₁ stored a₂) :
    Transition s (.commit keys) .done
      (s.at (.activated (Session.newRecord h s.external.isSome stored
        (KeyWrap.enclose (h.master.derive KeyIndex.vault).bytes iv h.pair.privateBytes))))
  | removed {record : Record} (activated : s.stage = .activated record) :
    Transition s .remove .done (s.at .removed)
  | removedAgain (removed : s.stage = .removed) : Transition s .remove .done s
  | reset : Transition s .reset .done (s.at .empty)
  | signed {request : Request} {keys : UnlockKeys} {factor : SignatureFactor} {record : Record}
      {counter : Counter} {signature : RequestSignature}
      (signs : s.Signs request keys factor record counter signature) :
    Transition s (.sign request keys factor) (.signature signature)
      (s.at (.activated { record with counter }))
  | vaultRequested {request : Request} {keys : UnlockKeys} {factor : SignatureFactor}
      {record : Record} {counter : Counter} {signature : RequestSignature}
      (factors : 2 ≤ factor.count)
      (signs : s.Signs request keys factor record counter signature) :
    Transition s (.requestVault request keys factor) (.authorization ⟨signature⟩)
      (s.at (.activated { record with counter }))
  | recoveryConfirmed {code : String} {keys : UnlockKeys} {factor : SignatureFactor}
      {record : Record} {counter : Counter} {signature : RequestSignature}
      (factors : 2 ≤ factor.count) (isCode : Code.isRecovery code = true)
      (signs : s.Signs ⟨"POST", Recovery.confirmUri,
        Bytes.ofText (Recovery.bodyText (Code.unmarked code)), none⟩ keys factor record counter
        signature) :
    Transition s (.confirmRecovery code keys factor)
      (.confirmation ⟨Bytes.ofText (Recovery.bodyText (Code.unmarked code)), signature,
        record.knowsCode (Code.digest code)⟩)
      (s.at (.activated (({ record with counter } : Record).rememberCode (Code.digest code))))
  | applied {status : Status} {record : Record} (blocked : Bool)
      (activated : s.stage = .activated record)
      (seen : status.state = if blocked then .blocked else .active) :
    Transition s (.applyStatus status) .done (s.at (.activated { record with blocked }))
  | removedOnServer {status : Status} {record : Record} (activated : s.stage = .activated record)
      (seen : status.state = .removed) :
    Transition s (.applyStatus status) .done (s.at .removed)
  | upgraded {data : UpgradeData} {record : Record} {counter : Counter}
      (active : s.activeRecord = .ok record) (old : record.version = .v2)
      (moved : Session.upgradedCounter record.counter data.counterData = .ok counter) :
    Transition s (.upgrade data) .done (s.at (.activated { record with counter }))
  | restored {bytes : Bytes} {stored : Stored} (decoded : Stored.decode bytes = .ok stored) :
    Transition s (.deserialize bytes) .done (s.at (Session.stageOf stored))
  | passwordChanged {old new : Password} {record : Record} {external : Option SymmetricKey}
      {oldLock key lock : SymmetricKey} {salt : Octets 16} {stored : StoredKey} {a₁ a₂ : Ambient}
      (active : s.activeRecord = .ok record) (long : new.isAcceptable = true)
      (outside : s.externalFor record = .ok external)
      (oldLocked : Kdf.passwordLock old.bytes record.keys.salt = .ok oldLock)
      (opened : record.keys.knowledge.Opens oldLock external key)
      (locked : Kdf.passwordLock new.bytes salt.bytes = .ok lock)
      (kept : (StoredKey.protect key lock external).Gives a₁ stored a₂) :
    Transition s (.changePassword old new) .done (s.at (.activated
      { record with keys := { record.keys with knowledge := stored, salt := salt.bytes } }))
  | biometryRemoved {record : Record} (active : s.activeRecord = .ok record) :
    Transition s .removeBiometry .done
      (s.at (.activated { record with keys := { record.keys with biometry := none } }))
  | biometryAdded {vault : Vault} {keys : UnlockKeys} {record : Record} {lock : SymmetricKey}
      {serverKey : PublicKey} {external : Option SymmetricKey} {stored : StoredKey} {a₁ a₂ : Ambient}
      (active : s.activeRecord = .ok record) (own : record.activationId = vault.activationId)
      (valid : keys.validate = .ok ())
      (given : UnlockKeys.require .biometry keys.biometry = .ok lock)
      (key : PublicKey.ofBytes record.serverKey = .ok serverKey)
      (outside : s.externalFor record = .ok external)
      (kept : (StoredKey.protect ((Kdf.reduce (vault.pair.sharedSecret serverKey)).derive
        KeyIndex.biometry) lock external).Gives a₁ stored a₂) :
    Transition s (.addBiometry vault keys) .done
      (s.at (.activated { record with keys := { record.keys with biometry := some stored } }))
  | observed {op : Operation} {reply : Reply} (observes : op.observes = true) :
    Transition s op reply s

namespace Transition

variable {s s' : Session} {a a' : Ambient}

/-! ## Activation -/

theorem empty_of_requireEmpty {u : Unit} (h : s.requireEmpty = .ok u) : s.stage = .empty := by
  unfold Session.requireEmpty at h
  cases stage : s.stage with
  | empty => rfl
  | _ => simp [stage] at h

theorem of_start {recovery : Option RecoveryData} {request : ActivationRequest}
    (h : (Session.start recovery).Gives s a request s' a') :
    ∃ pair, request = ⟨pair.publicKey.base64, recovery.map RecoveryData.identity⟩
      ∧ s' = s.at (.begun pair recovery) := by
  unfold Session.start at h
  simp [and_assoc] at h
  obtain ⟨pair, _, _, -, rfl, -, rfl, rfl⟩ := h
  exact ⟨pair, rfl, rfl⟩

theorem of_begin {code : Option ActivationCode} {request : ActivationRequest}
    (h : (Session.begin code).Gives s a request s' a') :
    Transition s (.begin code) (.request request) s' := by
  unfold Session.begin at h
  rw [Change.gives_object_bind, Change.gives_checked_bind] at h
  obtain ⟨_, empty, h⟩ := h
  have started : ∃ a₁, (Session.start none).Gives s a₁ request s' a' := by
    cases code with
    | some code =>
      obtain ⟨_, a₁, -, started⟩ := Change.gives_liftM_bind.1 h
      exact ⟨a₁, started⟩
    | none => exact ⟨a, h⟩
  obtain ⟨_, started⟩ := started
  obtain ⟨pair, rfl, rfl⟩ := of_start started
  exact .begun (empty_of_requireEmpty empty)

theorem of_beginRecovery {code puk : String} {request : ActivationRequest}
    (h : (Session.beginRecovery code puk).Gives s a request s' a') :
    Transition s (.beginRecovery code puk) (.request request) s' := by
  unfold Session.beginRecovery at h
  rw [Change.gives_object_bind, Change.gives_checked_bind] at h
  obtain ⟨_, empty, h⟩ := h
  obtain ⟨parsed, _, -, h⟩ := Change.gives_liftM_bind.1 h
  simp at h
  obtain ⟨-, started⟩ := h
  obtain ⟨pair, rfl, rfl⟩ := of_start started
  exact .begunRecovery (empty_of_requireEmpty empty)

theorem of_establish {answer : ActivationAnswer} {outcome : ActivationOutcome}
    (h : (Session.establish answer).Gives s a outcome s' a') :
    Transition s (.establish answer) (.outcome outcome) s' := by
  unfold Session.establish at h
  rw [Change.gives_object_bind] at h
  cases stage : s.stage with
  | begun pair recovery =>
    simp [stage, and_assoc] at h
    obtain ⟨named, _, _, -, keyBytes, encoded, serverKey, key, counterData, counter, h⟩ := h
    split at h
    · obtain ⟨-, rfl, rfl⟩ := h
      exact .established stage named encoded key counter
    · obtain ⟨-, rfl, rfl⟩ := h
      exact .established stage named encoded key counter
  | _ => simp [stage] at h

theorem of_commit {keys : UnlockKeys} {u : Unit} (h : (Session.commit keys).Gives s a u s' a') :
    Transition s (.commit keys) .done s' := by
  unfold Session.commit at h
  rw [Change.gives_object_bind] at h
  cases stage : s.stage with
  | established handshake =>
    simp [stage, and_assoc] at h
    obtain ⟨locks, accepted, stored, _, kept, rfl, -⟩ := h
    exact .committed stage accepted kept
  | _ => simp [stage] at h

theorem of_remove {u : Unit} (h : Session.remove.Gives s a u s' a') :
    Transition s .remove .done s' := by
  unfold Session.remove at h
  rw [Change.gives_object_bind] at h
  cases stage : s.stage with
  | activated record =>
    simp [stage, and_assoc] at h
    obtain ⟨rfl, -⟩ := h
    exact .removed stage
  | removed =>
    simp [stage] at h
    obtain ⟨rfl, -⟩ := h
    exact .removedAgain stage
  | _ => simp [stage] at h

theorem of_reset {u : Unit} (h : Session.reset.Gives s a u s' a') : Transition s .reset .done s' := by
  unfold Session.reset at h
  rw [Change.gives_object_bind] at h
  simp [and_assoc] at h
  obtain ⟨-, rfl⟩ := h
  exact .reset

/-! ## Signing -/

theorem of_requestVault {request : Request} {keys : UnlockKeys} {factor : SignatureFactor}
    {authorization : VaultAuthorization}
    (h : (Session.requestVault request keys factor).Gives s a authorization s' a') :
    Transition s (.requestVault request keys factor) (.authorization authorization) s' := by
  unfold Session.requestVault at h
  simp [and_assoc] at h
  obtain ⟨_, factors, signature, signed, rfl⟩ := h
  obtain ⟨record, counter, signs, rfl⟩ := Session.signs_of_gives signed
  exact .vaultRequested factors signs

theorem of_confirmRecovery {code : String} {keys : UnlockKeys} {factor : SignatureFactor}
    {confirmation : RecoveryConfirmation}
    (h : (Session.confirmRecovery code keys factor).Gives s a confirmation s' a') :
    Transition s (.confirmRecovery code keys factor) (.confirmation confirmation) s' := by
  unfold Session.confirmRecovery at h
  simp [and_assoc] at h
  obtain ⟨-, parsed, _, parsing, factors, signature, _, _, signed, after, active, h⟩ := h
  obtain ⟨isCode, rfl⟩ := Code.parsed_of_gives parsing
  obtain ⟨record, counter, signs, rfl⟩ := Session.signs_of_gives signed
  have same : after = { record with counter } := by
    have stage := (Session.activeRecord_eq_ok_iff.1 active).1
    exact (Stage.activated.inj stage).symm
  subst same
  have confirmed := Transition.recoveryConfirmed factors isCode signs
  split at h
  · obtain ⟨rfl, rfl, -⟩ := h
    exact confirmed
  · obtain ⟨-, rfl, rfl⟩ := h
    exact confirmed

/-! ## Keeping -/

theorem of_applyStatus {status : Status} {u : Unit}
    (h : (Session.applyStatus status).Gives s a u s' a') :
    Transition s (.applyStatus status) .done s' := by
  unfold Session.applyStatus at h
  rw [Change.gives_object_bind] at h
  cases stage : s.stage with
  | activated record =>
    cases state : status.state with
    | active =>
      have applied : s' = s.at (.activated { record with blocked := false }) := by
        simp [stage, state] at h
        grind
      exact applied ▸ .applied false stage state
    | blocked =>
      have applied : s' = s.at (.activated { record with blocked := true }) := by
        simp [stage, state] at h
        grind
      exact applied ▸ .applied true stage state
    | removed =>
      simp [stage, state, and_assoc] at h
      obtain ⟨rfl, -⟩ := h
      exact .removedOnServer stage state
    | created => simp [stage, state] at h
    | pendingCommit => simp [stage, state] at h
  | _ => simp [stage] at h

theorem of_upgrade {data : UpgradeData} {u : Unit} (h : (Session.upgrade data).Gives s a u s' a') :
    Transition s (.upgrade data) .done s' := by
  unfold Session.upgrade at h
  simp [and_assoc] at h
  obtain ⟨record, active, old, counter, moved, -, rfl⟩ := h
  exact .upgraded active old moved

theorem of_deserialize {bytes : Bytes} {u : Unit}
    (h : (Session.deserialize bytes).Gives s a u s' a') :
    Transition s (.deserialize bytes) .done s' := by
  unfold Session.deserialize at h
  simp [and_assoc] at h
  obtain ⟨stored, decoded, -, rfl⟩ := h
  exact .restored decoded

theorem of_changePassword {old new : Password} {u : Unit}
    (h : (Session.changePassword old new).Gives s a u s' a') :
    Transition s (.changePassword old new) .done s' := by
  unfold Session.changePassword at h
  rw [Change.gives_object_bind] at h
  simp [and_assoc] at h
  obtain ⟨record, active, long, external, outside, key, ⟨oldLock, oldLocked, opened⟩, lock, locked,
    stored, t, kept, -, rfl⟩ := h
  exact .passwordChanged active long outside oldLocked opened locked kept

theorem of_removeBiometry {u : Unit} (h : Session.removeBiometry.Gives s a u s' a') :
    Transition s .removeBiometry .done s' := by
  unfold Session.removeBiometry at h
  simp [and_assoc] at h
  obtain ⟨record, active, h⟩ := h
  split at h
  · obtain ⟨-, rfl⟩ := h
    exact .biometryRemoved active
  · obtain ⟨rfl, -⟩ := h
    exact .biometryRemoved active

theorem of_addBiometry {vault : Vault} {keys : UnlockKeys} {u : Unit}
    (h : (vault.addBiometry keys).Gives s a u s' a') :
    Transition s (.addBiometry vault keys) .done s' := by
  unfold Vault.addBiometry Session.storeBiometry at h
  rw [Change.gives_object_bind] at h
  simp [and_assoc] at h
  obtain ⟨record, active, own, ⟨_, valid⟩, lock, given, serverKey, key, again, same, external, outside,
    stored, t, kept, -, rfl⟩ := h
  obtain rfl : record = again := by
    rw [active] at same
    exact Except.ok.inj same
  exact .biometryAdded active own valid given key outside kept

/-! ## All of them -/

theorem of_ask {α : Type} {question : Session → Core α} {answer : α}
    (h : (Session.ask question).Gives s a answer s' a') :
    (question s).Gives a answer a' ∧ s' = s := by
  unfold Session.ask at h
  rw [Change.gives_object_bind] at h
  exact Change.gives_liftM.1 h

theorem of_observation {op : Operation} {α : Type} {question : Session → Core α} {answer : α}
    {reply : Reply} (observes : op.observes = true)
    (h : (Session.ask question).Gives s a answer s' a') : Transition s op reply s' := by
  obtain ⟨-, same⟩ := of_ask h
  rw [same]
  exact .observed observes

/-- **Whatever ends well is one of the transitions.** -/
theorem of_gives {op : Operation} {reply : Reply} (h : op.run.Gives s a reply s' a') :
    Transition s op reply s' := by
  cases op with
  | begin code =>
    obtain ⟨request, ran, rfl⟩ := Change.gives_map.1 h
    exact of_begin ran
  | beginRecovery code puk =>
    obtain ⟨request, ran, rfl⟩ := Change.gives_map.1 h
    exact of_beginRecovery ran
  | establish answer =>
    obtain ⟨outcome, ran, rfl⟩ := Change.gives_map.1 h
    exact of_establish ran
  | commit keys =>
    obtain ⟨_, ran, rfl⟩ := Change.gives_map.1 h
    exact of_commit ran
  | remove =>
    obtain ⟨_, ran, rfl⟩ := Change.gives_map.1 h
    exact of_remove ran
  | reset =>
    obtain ⟨_, ran, rfl⟩ := Change.gives_map.1 h
    exact of_reset ran
  | sign request keys factor =>
    obtain ⟨signature, ran, rfl⟩ := Change.gives_map.1 h
    obtain ⟨record, counter, signs, rfl⟩ := Session.signs_of_gives ran
    exact .signed signs
  | requestVault request keys factor =>
    obtain ⟨authorization, ran, rfl⟩ := Change.gives_map.1 h
    exact of_requestVault ran
  | confirmRecovery code keys factor =>
    obtain ⟨confirmation, ran, rfl⟩ := Change.gives_map.1 h
    exact of_confirmRecovery ran
  | applyStatus status =>
    obtain ⟨_, ran, rfl⟩ := Change.gives_map.1 h
    exact of_applyStatus ran
  | upgrade data =>
    obtain ⟨_, ran, rfl⟩ := Change.gives_map.1 h
    exact of_upgrade ran
  | deserialize bytes =>
    obtain ⟨_, ran, rfl⟩ := Change.gives_map.1 h
    exact of_deserialize ran
  | changePassword old new =>
    obtain ⟨_, ran, rfl⟩ := Change.gives_map.1 h
    exact of_changePassword ran
  | removeBiometry =>
    obtain ⟨_, ran, rfl⟩ := Change.gives_map.1 h
    exact of_removeBiometry ran
  | addBiometry vault keys =>
    obtain ⟨_, ran, rfl⟩ := Change.gives_map.1 h
    exact of_addBiometry ran
  | _ =>
    obtain ⟨_, ran, rfl⟩ := Change.gives_map.1 h
    exact of_observation rfl ran

end Transition

end DeviceAuth
