import DeviceAuth.Proofs.Description.Secrets
import DeviceAuth.Proofs.Session.Storage
import DeviceAuth.Proofs.Session.Upgrade

/-!
# Two runs that differ in secrets only

Two sessions are created from alike setups, and the same operations are called on both of them, with
arguments that differ in secrets only. As long as each call ends in one session as it does in the other,
and the same device keys are drawn, the sessions stay alike, and whatever the calls hand over is alike:
`Transition.alike` is the step and `Session.Alike.run` the induction.

Failed calls leave sessions as they are, so a run may well contain them. What differs between two runs
is then never their course, only what is kept under the locks and what the server is sent.
-/

set_option autoImplicit false

namespace DeviceAuth

/-! ## Calls that differ in secrets only -/

/-- Alike answers of the server: the counter data and the recovery data are secrets. -/
structure ActivationAnswer.Alike (x y : ActivationAnswer) : Prop where
  activationId : x.activationId = y.activationId
  serverKey : x.serverKey = y.serverKey
  recovery : x.recovery.isSome = y.recovery.isSome

/-- The same operation, on arguments that differ in secrets or in what is encrypted or signed with
them. Octets to restore may differ as far as what they hold is alike. -/
inductive Operation.Alike : Operation → Operation → Prop
  | begin (code : Option ActivationCode) : Alike (.begin code) (.begin code)
  | beginRecovery (code puk code' puk' : String) :
    Alike (.beginRecovery code puk) (.beginRecovery code' puk')
  | establish {answer answer' : ActivationAnswer} (answers : answer.Alike answer') :
    Alike (.establish answer) (.establish answer')
  | commit {keys keys' : UnlockKeys} (unlocking : keys.Alike keys') :
    Alike (.commit keys) (.commit keys')
  | remove : Alike .remove .remove
  | reset : Alike .reset .reset
  | sign (request : Request) (factor : SignatureFactor) {keys keys' : UnlockKeys}
      (unlocking : keys.Alike keys') : Alike (.sign request keys factor) (.sign request keys' factor)
  | requestVault (request : Request) (factor : SignatureFactor) {keys keys' : UnlockKeys}
      (unlocking : keys.Alike keys') :
    Alike (.requestVault request keys factor) (.requestVault request keys' factor)
  | confirmRecovery (code code' : String) (factor : SignatureFactor) {keys keys' : UnlockKeys}
      (unlocking : keys.Alike keys') :
    Alike (.confirmRecovery code keys factor) (.confirmRecovery code' keys' factor)
  | applyStatus {status status' : Status} (seen : status.state = status'.state) :
    Alike (.applyStatus status) (.applyStatus status')
  | upgrade (data data' : UpgradeData) : Alike (.upgrade data) (.upgrade data')
  | deserialize {bytes bytes' : Bytes}
      (held : ∀ stored stored', Stored.decode bytes = .ok stored → Stored.decode bytes' = .ok stored' →
        (Session.stageOf stored).Alike (Session.stageOf stored')) :
    Alike (.deserialize bytes) (.deserialize bytes')
  | changePassword (old new old' new' : Password) :
    Alike (.changePassword old new) (.changePassword old' new')
  | removeBiometry : Alike .removeBiometry .removeBiometry
  | addBiometry {vault vault' : Vault} {keys keys' : UnlockKeys} (vaults : vault.Alike vault')
      (unlocking : keys.Alike keys') : Alike (.addBiometry vault keys) (.addBiometry vault' keys')
  | serialize : Alike .serialize .serialize
  | signOffline (request : Request) (factor : SignatureFactor) {keys keys' : UnlockKeys}
      (unlocking : keys.Alike keys') :
    Alike (.signOffline request keys factor) (.signOffline request keys' factor)
  | decodeStatus (encrypted encrypted' : EncryptedStatus) {keys keys' : UnlockKeys}
      (unlocking : keys.Alike keys') :
    Alike (.decodeStatus encrypted keys) (.decodeStatus encrypted' keys')
  | unlockVault (authorization authorization' : VaultAuthorization) (encrypted encrypted' : String)
      {keys keys' : UnlockKeys} (unlocking : keys.Alike keys') :
    Alike (.unlockVault authorization keys encrypted) (.unlockVault authorization' keys' encrypted')
  | deriveOnce (authorization authorization' : VaultAuthorization) (encrypted encrypted' : String)
      (index : UInt64) {keys keys' : UnlockKeys} (unlocking : keys.Alike keys') :
    Alike (.deriveOnce authorization keys encrypted index)
      (.deriveOnce authorization' keys' encrypted' index)
  | verifySigned (signed : SignedData) : Alike (.verifySigned signed) (.verifySigned signed)
  | encryptor (scope : Scope) (info1 : Bytes) {keys keys' : UnlockKeys}
      (unlocking : keys.Alike keys') :
    Alike (.encryptor scope keys info1) (.encryptor scope keys' info1)

/-- What an answer hands over, if it holds secrets. -/
def Reply.holder? : Reply → Option Holder
  | .request x => some (.request x)
  | .outcome x => some (.outcome x)
  | .vault x => some (.vault x)
  | .key x => some (.key x)
  | .encryptor x => some (.encryptor x)
  | _ => none

/-- Alike answers: what they hand over is alike. -/
def Reply.Alike (x y : Reply) : Prop := Option.Rel Holder.Alike x.holder? y.holder?

/-- Two answers do not show different device keys. -/
def Reply.SameKey (x y : Reply) : Prop :=
  ∀ request request', x = .request request → y = .request request' →
    request.deviceKey = request'.deviceKey

/-! ## Parts of alike sessions -/

section

variable {s t s' t' : Session} {record record' : Record} {op op' : Operation} {reply reply' : Reply}

theorem Counter.Alike.next {x y x' y' : Counter} (alike : x.Alike y) (moved : x.next = .ok x')
    (moved' : y.next = .ok y') : x'.Alike y' := by
  cases alike with
  | linear value =>
    obtain rfl := Except.ok.inj (moved.symm.trans moved')
    cases x' with
    | linear value => exact .linear value
    | hashed data => exact .hashed data data
  | hashed x y =>
    obtain rfl := Except.ok.inj moved
    obtain rfl := Except.ok.inj moved'
    exact .hashed _ _

theorem Record.exists_rememberCode (record : Record) (digest : Octets 32) :
    ∃ codes, record.rememberCode digest = { record with confirmedCodes := codes } := by
  unfold rememberCode
  split
  · exact ⟨_, rfl⟩
  · exact ⟨_, rfl⟩

theorem Record.Alike.rememberCode (alike : record.Alike record') (digest digest' : Octets 32) :
    (record.rememberCode digest).Alike (record'.rememberCode digest') := by
  obtain ⟨codes, remembered⟩ := record.exists_rememberCode digest
  obtain ⟨codes', remembered'⟩ := record'.exists_rememberCode digest'
  rw [remembered, remembered']
  exact { alike with }

namespace Session.Alike

theorem at_stage (alike : s.Alike t) {stage stage' : Stage} (stages : stage.Alike stage') :
    (s.at stage).Alike (t.at stage') :=
  { alike with stage := stages }

theorem at_record (alike : s.Alike t) (records : record.Alike record') :
    (s.at (.activated record)).Alike (t.at (.activated record')) :=
  alike.at_stage (.activated records)

theorem activated (alike : s.Alike t) (stage : s.stage = .activated record)
    (stage' : t.stage = .activated record') : record.Alike record' := by
  have stages := alike.stage
  rw [stage, stage'] at stages
  cases stages with
  | activated records => exact records

theorem begun (alike : s.Alike t) {pair pair' : KeyPair} {recovery recovery' : Option RecoveryData}
    (stage : s.stage = .begun pair recovery) (stage' : t.stage = .begun pair' recovery') :
    pair.publicKey = pair'.publicKey := by
  have stages := alike.stage
  rw [stage, stage'] at stages
  cases stages with
  | begun deviceKey => exact deviceKey

theorem exchanged (alike : s.Alike t) {h h' : Handshake} (stage : s.stage = .established h)
    (stage' : t.stage = .established h') : h.Alike h' := by
  have stages := alike.stage
  rw [stage, stage'] at stages
  cases stages with
  | established same => exact same

theorem active (alike : s.Alike t) (active : s.activeRecord = .ok record)
    (active' : t.activeRecord = .ok record') : record.Alike record' :=
  alike.activated (activeRecord_eq_ok_iff.1 active).1 (activeRecord_eq_ok_iff.1 active').1

/-- What is stored of alike sessions may be restored in alike runs. -/
theorem restoring (alike : s.Alike t) (fits : s.stored.Fits) (fits' : t.stored.Fits) :
    Operation.Alike (.deserialize s.serialize) (.deserialize t.serialize) := by
  have written : Stored.decode s.serialize = .ok s.stored := by
    rw [Stored.decode_eq_ok_iff]
    exact ⟨fits, [], (List.append_nil _).symm⟩
  have written' : Stored.decode t.serialize = .ok t.stored := by
    rw [Stored.decode_eq_ok_iff]
    exact ⟨fits', [], (List.append_nil _).symm⟩
  refine .deserialize fun stored stored' read read' => ?_
  obtain rfl := Except.ok.inj (written.symm.trans read)
  obtain rfl := Except.ok.inj (written'.symm.trans read')
  have stages := alike.stage
  unfold Session.stored
  revert stages
  generalize s.stage = x, t.stage = y
  rintro (_ | _ | _ | records | _)
  case activated => exact .activated records
  case removed => exact .removed
  all_goals exact .empty

/-- A signature moves both counters. -/
theorem signed (alike : s.Alike t) {request request' : Request} {keys keys' : UnlockKeys}
    {factor factor' : SignatureFactor} {next next' : Counter} {signature signature' : RequestSignature}
    (signs : s.Signs request keys factor record next signature)
    (signs' : t.Signs request' keys' factor' record' next' signature') :
    ({ record with counter := next } : Record).Alike { record' with counter := next' } :=
  have records := alike.active signs.active signs'.active
  { records with counter := records.counter.next signs.counter signs'.counter }

end Session.Alike

/-- A key that may be missing is there if its octets are. -/
theorem UnlockKeys.isSome_of_checkGiven {role : KeyRole} {given : Option Bytes}
    {found : Option SymmetricKey} (h : checkGiven role given = .ok found) :
    found.isSome = given.isSome := by
  cases given with
  | none =>
    obtain rfl := Except.ok.inj h
    rfl
  | some bytes =>
    unfold checkGiven at h
    cases checked : checkKey role bytes with
    | error => simp [checked, Except.map] at h
    | ok key =>
      simp [checked, Except.map] at h
      rw [← h]
      rfl

/-- A committed activation has a biometry key if one was handed over. -/
theorem Session.isSome_biometry_of_commit {keys : UnlockKeys} {locks : Session.Locks}
    {master : SymmetricKey} {external : Option SymmetricKey} {stored : FactorKeys} {a a' : Ambient}
    (accepted : Session.locks keys = .ok locks)
    (kept : (Session.storeKeys master locks external).Gives a stored a') :
    stored.biometry.isSome = keys.biometry.isSome := by
  have given : locks.biometry.isSome = keys.biometry.isSome := by
    unfold Session.locks at accepted
    simp only [except_bind_eq_ok_iff] at accepted
    obtain ⟨_, -, possession, -, password, -, accepted⟩ := accepted
    split at accepted
    · obtain ⟨biometry, checked, accepted⟩ := except_bind_eq_ok_iff.1 accepted
      cases accepted
      exact UnlockKeys.isSome_of_checkGiven checked
    · cases accepted
  rw [← given]
  unfold Session.storeKeys at kept
  cases own : locks.biometry with
  | none =>
    simp only [own, Core.gives_bind, Core.gives_liftM_checked, Core.gives_pure] at kept
    grind
  | some lock =>
    simp only [own, Core.gives_bind, Core.gives_map, Core.gives_liftM_checked, Core.gives_pure] at kept
    grind

/-- Alike outcomes of a key exchange are committed as alike records. -/
theorem Handshake.Alike.newRecord {h h' : Handshake} (exchanged : h.Alike h') {external external' : Bool}
    (outside : external = external') {stored stored' : FactorKeys}
    (biometry : stored.biometry.isSome = stored'.biometry.isSome) (wrapped wrapped' : Bytes) :
    (Session.newRecord h external stored wrapped).Alike
      (Session.newRecord h' external' stored' wrapped') where
  activationId := exchanged.activationId
  serverKey := congrArg PublicKey.bytes exchanged.serverKey
  deviceKey := congrArg PublicKey.bytes exchanged.deviceKey
  biometry := biometry
  counter := .hashed h.counterData h'.counterData
  usesExternal := outside
  blocked := rfl

/-! ## The step

Two transitions of one operation move both sessions in one way. Where the operation leaves a choice, what
it saw decides it, and that is public. -/

namespace Transition

/-- Two sessions that begin with the same device key stay alike, with recovery data or without. -/
theorem alike_begun {pair pair' : KeyPair} {recovery recovery' : Option RecoveryData}
    {identity identity' : Option String} (sessions : s.Alike t)
    (drawn : (Reply.request ⟨pair.publicKey.base64, identity⟩).SameKey
      (.request ⟨pair'.publicKey.base64, identity'⟩))
    (kind : recovery.isSome = recovery'.isSome) (shown : identity.isSome = identity'.isSome) :
    (s.at (.begun pair recovery)).Alike (t.at (.begun pair' recovery'))
      ∧ (Reply.request ⟨pair.publicKey.base64, identity⟩).Alike
        (.request ⟨pair'.publicKey.base64, identity'⟩) := by
  have deviceKey := drawn _ _ rfl rfl
  exact ⟨sessions.at_stage (.begun (PublicKey.base64_inj.1 deviceKey) kind),
    .some (.request ⟨deviceKey, shown⟩)⟩

theorem alike_begin {code code' : Option ActivationCode} (moved : Transition s (.begin code) reply s')
    (moved' : Transition t (.begin code') reply' t') (drawn : reply.SameKey reply')
    (sessions : s.Alike t) : s'.Alike t' ∧ reply.Alike reply' := by
  cases moved with
  | begun =>
    cases moved' with
    | begun => exact alike_begun sessions drawn rfl rfl
    | observed observes => cases observes
  | observed observes => cases observes

theorem alike_beginRecovery {code puk code' puk' : String}
    (moved : Transition s (.beginRecovery code puk) reply s')
    (moved' : Transition t (.beginRecovery code' puk') reply' t') (drawn : reply.SameKey reply')
    (sessions : s.Alike t) : s'.Alike t' ∧ reply.Alike reply' := by
  cases moved with
  | begunRecovery =>
    cases moved' with
    | begunRecovery => exact alike_begun sessions drawn rfl rfl
    | observed observes => cases observes
  | observed observes => cases observes

/-- The server's key is the same, and both device keys are those the sessions began with. -/
theorem alike_establish {answer answer' : ActivationAnswer} (answers : answer.Alike answer')
    (moved : Transition s (.establish answer) reply s')
    (moved' : Transition t (.establish answer') reply' t') (sessions : s.Alike t) :
    s'.Alike t' ∧ reply.Alike reply' := by
  cases moved with
  | established begun named encoded key counter =>
    cases moved' with
    | established begun' named' encoded' key' counter' =>
      have deviceKey := sessions.begun begun begun'
      rw [answers.serverKey, encoded'] at encoded
      obtain rfl := Except.ok.inj encoded
      obtain rfl := Except.ok.inj (key.symm.trans key')
      refine ⟨sessions.at_stage (.established ⟨deviceKey, answers.activationId, rfl⟩),
        .some (.outcome ⟨?_, answers.recovery⟩)⟩
      rw [deviceKey, answers.activationId]
    | observed observes => cases observes
  | observed observes => cases observes

theorem alike_commit {keys keys' : UnlockKeys} (unlocking : keys.Alike keys')
    (moved : Transition s (.commit keys) reply s') (moved' : Transition t (.commit keys') reply' t')
    (sessions : s.Alike t) : s'.Alike t' ∧ reply.Alike reply' := by
  cases moved with
  | committed established accepted kept =>
    cases moved' with
    | committed established' accepted' kept' =>
      have exchanged := sessions.exchanged established established'
      have biometry := (Session.isSome_biometry_of_commit accepted kept).trans
        (unlocking.biometry.trans (Session.isSome_biometry_of_commit accepted' kept').symm)
      exact ⟨sessions.at_record (exchanged.newRecord sessions.external biometry _ _), .none⟩
    | observed observes => cases observes
  | observed observes => cases observes

theorem alike_remove (moved : Transition s .remove reply s') (moved' : Transition t .remove reply' t')
    (sessions : s.Alike t) : s'.Alike t' ∧ reply.Alike reply' := by
  have stages := sessions.stage
  cases moved with
  | removed stage =>
    cases moved' with
    | removed => exact ⟨sessions.at_stage .removed, .none⟩
    | removedAgain stage' =>
      rw [stage, stage'] at stages
      cases stages
    | observed observes => cases observes
  | removedAgain stage =>
    cases moved' with
    | removed stage' =>
      rw [stage, stage'] at stages
      cases stages
    | removedAgain => exact ⟨sessions, .none⟩
    | observed observes => cases observes
  | observed observes => cases observes

theorem alike_reset (moved : Transition s .reset reply s') (moved' : Transition t .reset reply' t')
    (sessions : s.Alike t) : s'.Alike t' ∧ reply.Alike reply' := by
  cases moved with
  | reset =>
    cases moved' with
    | reset => exact ⟨sessions.at_stage .empty, .none⟩
    | observed observes => cases observes
  | observed observes => cases observes

theorem alike_sign {request request' : Request} {keys keys' : UnlockKeys}
    {factor factor' : SignatureFactor} (moved : Transition s (.sign request keys factor) reply s')
    (moved' : Transition t (.sign request' keys' factor') reply' t') (sessions : s.Alike t) :
    s'.Alike t' ∧ reply.Alike reply' := by
  cases moved with
  | signed signs =>
    cases moved' with
    | signed signs' => exact ⟨sessions.at_record (sessions.signed signs signs'), .none⟩
    | observed observes => cases observes
  | observed observes => cases observes

theorem alike_requestVault {request request' : Request} {keys keys' : UnlockKeys}
    {factor factor' : SignatureFactor}
    (moved : Transition s (.requestVault request keys factor) reply s')
    (moved' : Transition t (.requestVault request' keys' factor') reply' t') (sessions : s.Alike t) :
    s'.Alike t' ∧ reply.Alike reply' := by
  cases moved with
  | vaultRequested _ signs =>
    cases moved' with
    | vaultRequested _ signs' => exact ⟨sessions.at_record (sessions.signed signs signs'), .none⟩
    | observed observes => cases observes
  | observed observes => cases observes

/-- The codes may be different. What is remembered of them is not described. -/
theorem alike_confirmRecovery {code code' : String} {keys keys' : UnlockKeys}
    {factor factor' : SignatureFactor}
    (moved : Transition s (.confirmRecovery code keys factor) reply s')
    (moved' : Transition t (.confirmRecovery code' keys' factor') reply' t') (sessions : s.Alike t) :
    s'.Alike t' ∧ reply.Alike reply' := by
  cases moved with
  | recoveryConfirmed _ _ signs =>
    cases moved' with
    | recoveryConfirmed _ _ signs' =>
      exact ⟨sessions.at_record ((sessions.signed signs signs').rememberCode _ _), .none⟩
    | observed observes => cases observes
  | observed observes => cases observes

/-- Both servers report the same state, so both activations are blocked, both are not, or both are
gone. -/
theorem alike_applyStatus {status status' : Status} (seen : status.state = status'.state)
    (moved : Transition s (.applyStatus status) reply s')
    (moved' : Transition t (.applyStatus status') reply' t') (sessions : s.Alike t) :
    s'.Alike t' ∧ reply.Alike reply' := by
  cases moved with
  | applied blocked stage state =>
    cases moved' with
    | applied blocked' stage' state' =>
      have same : blocked = blocked' := by grind
      exact ⟨sessions.at_record { sessions.activated stage stage' with blocked := same }, .none⟩
    | removedOnServer _ state' => grind
    | observed observes => cases observes
  | removedOnServer _ state =>
    cases moved' with
    | applied blocked' _ state' => grind
    | removedOnServer => exact ⟨sessions.at_stage .removed, .none⟩
    | observed observes => cases observes
  | observed observes => cases observes

theorem alike_upgrade {data data' : UpgradeData} (moved : Transition s (.upgrade data) reply s')
    (moved' : Transition t (.upgrade data') reply' t') (sessions : s.Alike t) :
    s'.Alike t' ∧ reply.Alike reply' := by
  cases moved with
  | upgraded active old moved =>
    cases moved' with
    | upgraded active' old' moved' =>
      obtain ⟨octets, rfl⟩ := Session.exists_hashed_of_upgradedCounter old moved
      obtain ⟨octets', rfl⟩ := Session.exists_hashed_of_upgradedCounter old' moved'
      exact ⟨sessions.at_record { sessions.active active active' with counter := .hashed _ _ }, .none⟩
    | observed observes => cases observes
  | observed observes => cases observes

theorem alike_deserialize {bytes bytes' : Bytes}
    (held : ∀ stored stored', Stored.decode bytes = .ok stored → Stored.decode bytes' = .ok stored' →
      (Session.stageOf stored).Alike (Session.stageOf stored'))
    (moved : Transition s (.deserialize bytes) reply s')
    (moved' : Transition t (.deserialize bytes') reply' t') (sessions : s.Alike t) :
    s'.Alike t' ∧ reply.Alike reply' := by
  cases moved with
  | restored decoded =>
    cases moved' with
    | restored decoded' => exact ⟨sessions.at_stage (held _ _ decoded decoded'), .none⟩
    | observed observes => cases observes
  | observed observes => cases observes

theorem alike_changePassword {old new old' new' : Password}
    (moved : Transition s (.changePassword old new) reply s')
    (moved' : Transition t (.changePassword old' new') reply' t') (sessions : s.Alike t) :
    s'.Alike t' ∧ reply.Alike reply' := by
  cases moved with
  | passwordChanged active =>
    cases moved' with
    | passwordChanged active' => exact ⟨sessions.at_record { sessions.active active active' with }, .none⟩
    | observed observes => cases observes
  | observed observes => cases observes

theorem alike_removeBiometry (moved : Transition s .removeBiometry reply s')
    (moved' : Transition t .removeBiometry reply' t') (sessions : s.Alike t) :
    s'.Alike t' ∧ reply.Alike reply' := by
  cases moved with
  | biometryRemoved active =>
    cases moved' with
    | biometryRemoved active' =>
      exact ⟨sessions.at_record { sessions.active active active' with biometry := rfl }, .none⟩
    | observed observes => cases observes
  | observed observes => cases observes

theorem alike_addBiometry {vault vault' : Vault} {keys keys' : UnlockKeys}
    (moved : Transition s (.addBiometry vault keys) reply s')
    (moved' : Transition t (.addBiometry vault' keys') reply' t') (sessions : s.Alike t) :
    s'.Alike t' ∧ reply.Alike reply' := by
  cases moved with
  | biometryAdded active =>
    cases moved' with
    | biometryAdded active' =>
      exact ⟨sessions.at_record { sessions.active active active' with biometry := rfl }, .none⟩
    | observed observes => cases observes
  | observed observes => cases observes

/-- **Alike calls on alike sessions leave alike sessions and alike answers.** -/
theorem alike (moved : Transition s op reply s') (moved' : Transition t op' reply' t')
    (ops : op.Alike op') (acts : op.observes = false) (drawn : reply.SameKey reply')
    (sessions : s.Alike t) : s'.Alike t' ∧ reply.Alike reply' := by
  cases ops with
  | begin => exact alike_begin moved moved' drawn sessions
  | beginRecovery => exact alike_beginRecovery moved moved' drawn sessions
  | establish answers => exact alike_establish answers moved moved' sessions
  | commit unlocking => exact alike_commit unlocking moved moved' sessions
  | remove => exact alike_remove moved moved' sessions
  | reset => exact alike_reset moved moved' sessions
  | sign => exact alike_sign moved moved' sessions
  | requestVault => exact alike_requestVault moved moved' sessions
  | confirmRecovery => exact alike_confirmRecovery moved moved' sessions
  | applyStatus seen => exact alike_applyStatus seen moved moved' sessions
  | upgrade => exact alike_upgrade moved moved' sessions
  | deserialize held => exact alike_deserialize held moved moved' sessions
  | changePassword => exact alike_changePassword moved moved' sessions
  | removeBiometry => exact alike_removeBiometry moved moved' sessions
  | addBiometry => exact alike_addBiometry moved moved' sessions
  | _ => cases acts

/-- What only looks at a session leaves it alone and hands over what it was asked for. -/
theorem of_asked {α : Type} {question : Session → Core α} {answer : α → Reply} {a a' : Ambient}
    (h : (answer <$> Session.ask question).Gives s a reply s' a') :
    s' = s ∧ ∃ found, (question s).Gives a found a' ∧ reply = answer found := by
  obtain ⟨found, asked, rfl⟩ := Change.gives_map.1 h
  obtain ⟨given, same⟩ := of_ask asked
  exact ⟨same, found, given, rfl⟩

end Transition

theorem Session.Alike.encryptor {scope : Scope} {keys keys' : UnlockKeys} {info1 : Bytes}
    {e e' : Encryptor} {a a' b b' : Ambient} (sessions : s.Alike t)
    (made : (s.encryptor scope keys info1).Gives a e a')
    (made' : (t.encryptor scope keys' info1).Gives b e' b') : e.Alike e' := by
  unfold Session.encryptor at made made'
  cases scope with
  | application =>
    obtain ⟨rfl, -⟩ := Core.gives_pure.1 made
    obtain ⟨rfl, -⟩ := Core.gives_pure.1 made'
    exact ⟨congrArg PublicKey.bytes sessions.masterKey, rfl, rfl⟩
  | activation =>
    simp [and_assoc] at made made'
    obtain ⟨record, active, -, _, -, -, rfl⟩ := made
    obtain ⟨record', active', -, _, -, -, rfl⟩ := made'
    exact ⟨(sessions.active active active').serverKey, rfl, rfl⟩

theorem Operation.alike_of_observes {a a' b b' : Ambient} (ops : op.Alike op')
    (observes : op.observes = true) (h : op.run.Gives s a reply s' a')
    (h' : op'.run.Gives t b reply' t' b') (sessions : s.Alike t) :
    s'.Alike t' ∧ reply.Alike reply' := by
  cases ops with
  | unlockVault =>
    obtain ⟨rfl, vault, unlocked, rfl⟩ := Transition.of_asked h
    obtain ⟨rfl, vault', unlocked', rfl⟩ := Transition.of_asked h'
    obtain ⟨record, belongs⟩ := Vault.belongs_of_unlock unlocked
    obtain ⟨record', belongs'⟩ := Vault.belongs_of_unlock unlocked'
    have own := (sessions.active belongs.active belongs'.active).activationId
    rw [← belongs.activationId, ← belongs'.activationId] at own
    exact ⟨sessions, .some (.vault ⟨own⟩)⟩
  | deriveOnce =>
    obtain ⟨rfl, key, -, rfl⟩ := Transition.of_asked h
    obtain ⟨rfl, key', -, rfl⟩ := Transition.of_asked h'
    exact ⟨sessions, .some (.key key key')⟩
  | encryptor =>
    obtain ⟨rfl, e, made, rfl⟩ := Transition.of_asked h
    obtain ⟨rfl, e', made', rfl⟩ := Transition.of_asked h'
    exact ⟨sessions, .some (.encryptor (sessions.encryptor made made'))⟩
  | serialize | signOffline | decodeStatus | verifySigned =>
    obtain ⟨rfl, _, -, rfl⟩ := Transition.of_asked h
    obtain ⟨rfl, _, -, rfl⟩ := Transition.of_asked h'
    exact ⟨sessions, .none⟩
  | _ => cases observes

/-! ## The run -/

/-- Two turns that differ in secrets only: alike operations that both end well or both fail, and that
draw the same device key if they draw one. -/
structure Turn.Together (x y : Turn) : Prop where
  operations : x.operation.Alike y.operation
  results : x.result.isOk = y.result.isOk
  drawn : ∀ reply reply', x.result = .ok reply → y.result = .ok reply' → reply.SameKey reply'

/-- What two turns have alike: the sessions before and after, and what is handed over. -/
structure Turn.Alike (x y : Turn) : Prop where
  before : x.before.Alike y.before
  after : x.after.Alike y.after
  replies : ∀ reply reply', x.result = .ok reply → y.result = .ok reply' → reply.Alike reply'

theorem Call.turn_alike {call call' : Call} (sessions : s.Alike t)
    (together : (call.turn s).Together (call'.turn t)) : (call.turn s).Alike (call'.turn t) := by
  have both := together.results
  cases result : (call.turn s).result with
  | ok reply =>
    cases result' : (call'.turn t).result with
    | ok reply' =>
      obtain ⟨_, ran⟩ := Call.gives_of_result result
      obtain ⟨_, ran'⟩ := Call.gives_of_result result'
      have drawn := together.drawn reply reply' result result'
      have ended : (call.turn s).after.Alike (call'.turn t).after ∧ reply.Alike reply' := by
        -- A transition says nothing of what an operation that only looks hands over.
        cases observes : call.operation.observes with
        | true => exact Operation.alike_of_observes together.operations observes ran ran' sessions
        | false =>
          exact Transition.alike (.of_gives ran) (.of_gives ran') together.operations observes drawn
            sessions
      refine ⟨sessions, ended.1, fun given given' h h' => ?_⟩
      obtain rfl := Except.ok.inj (result.symm.trans h)
      obtain rfl := Except.ok.inj (result'.symm.trans h')
      exact ended.2
    | error why =>
      rw [result, result'] at both
      cases both
  | error why =>
    cases result' : (call'.turn t).result with
    | ok reply' =>
      rw [result, result'] at both
      cases both
    | error why' =>
      obtain ⟨_, failed⟩ := Call.failed_of_result result
      obtain ⟨_, failed'⟩ := Call.failed_of_result result'
      have still := call.operation.atomic_run s call.ambient why _ _ failed
      have still' := call'.operation.atomic_run t call'.ambient why' _ _ failed'
      refine ⟨sessions, ?_, fun given _ h => ?_⟩
      · rw [still, still']
        exact sessions
      · rw [result] at h
        cases h

/-- **Two runs that differ in secrets only stay alike.** -/
theorem Session.Alike.run {calls calls' : List Call} (sessions : s.Alike t)
    (together : List.Forall₂ Turn.Together (s.history calls) (t.history calls')) :
    (s.after calls).Alike (t.after calls')
      ∧ List.Forall₂ Turn.Alike (s.history calls) (t.history calls') := by
  induction calls generalizing s t calls' with
  | nil =>
    cases calls' with
    | nil => exact ⟨sessions, .nil⟩
    | cons => cases together
  | cons call calls ih =>
    cases calls' with
    | nil => cases together
    | cons call' calls' =>
      cases together with
      | cons first rest =>
        have turns := Call.turn_alike sessions first
        obtain ⟨last, later⟩ := ih turns.after rest
        exact ⟨last, .cons turns later⟩

/-! ## The start of a run -/

theorem Setup.isSome_of_decodeExternal {given : Option Bytes} {found : Option SymmetricKey}
    (h : decodeExternal given = .ok found) : found.isSome = given.isSome := by
  unfold decodeExternal at h
  cases given with
  | none =>
    obtain rfl := Except.ok.inj h
    rfl
  | some bytes => grind

/-- Sessions created from alike setups are alike. -/
theorem Session.alike_of_create {setup setup' : Setup} {a a' b b' : Ambient}
    (setups : setup.Alike setup') (created : (create setup).Gives a s a')
    (created' : (create setup').Gives b t b') : s.Alike t := by
  unfold create Setup.validate at created created'
  simp [Setup.gives_decodeMaster, and_assoc] at created created'
  obtain ⟨-, -, master, ⟨bytes, encoded, point⟩, external, outside, -, rfl⟩ := created
  obtain ⟨-, -, master', ⟨bytes', encoded', point'⟩, external', outside', -, rfl⟩ := created'
  have key : master = master' := by
    rw [setups.masterKey, encoded'] at encoded
    obtain rfl := Except.ok.inj encoded
    exact Except.ok.inj (point.symm.trans point')
  have given : external.isSome = external'.isSome := by
    rw [Setup.isSome_of_decodeExternal outside, Setup.isSome_of_decodeExternal outside']
    exact setups.externalKey
  exact ⟨setups, key, given, .empty⟩

end

end DeviceAuth
