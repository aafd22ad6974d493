import DeviceAuth.Proofs.Code.Grammar
import DeviceAuth.Proofs.Curve.Ecdsa
import DeviceAuth.Proofs.Curve.Key
import DeviceAuth.Proofs.Session.Atomicity
import DeviceAuth.Proofs.Session.Faults
import DeviceAuth.Proofs.Session.Handshake

/-!
# Which fault is reported

Several things can be wrong with a call at once, and one of them is reported. `Operation.faults` lists
what is wrong, sorted by the place where an operation looks at it, and `Operation.reports_first_fault`
says that the first of them is what the call ends with; where nothing is wrong, only work with keys can
still fail.

The order is meant to be the state, then the arguments, then key material (`Operation.Described`), and
for most faults it is. Three come late. A record that needs the external encryption key is seen to need
it when its keys are reached, after all arguments; a request for the vault key or the confirmation of a
code looks at its own arguments before signing looks at the counter; and an offline nonce is decoded
before the unlock keys are looked at.
-/

set_option autoImplicit false

namespace DeviceAuth

variable {s : Session} {record : Record} {keys : UnlockKeys} {factor : SignatureFactor}
  {external : Option SymmetricKey} {request : Request} {α β : Type}

/-! ## Reaching keys -/

theorem StoredKey.checks_reveal (stored : StoredKey) (lock : SymmetricKey)
    (external : Option SymmetricKey) : (stored.reveal lock external).Checks [] := by
  refine (Core.checks_reasoned _).bind fun _ wrapped _ _ => ?_
  refine (Core.checks_reasoned _).bind fun _ plain _ _ => ?_
  cases Octets.ofBytes? plain with
  | some key => exact Core.checks_of_sure (Core.sure_pure _)
  | none =>
    intro a e a' failed
    cases failed
    exact Or.inl rfl

/-- Only the salt of a record can be wrong when a password is stretched. -/
theorem checks_passwordLock (password salt : Bytes) :
    (liftM (Kdf.passwordLock password salt) : Core SymmetricKey).Checks [] := by
  unfold Kdf.passwordLock
  split
  · intro a e a' failed
    cases failed
    exact Or.inr rfl
  · exact Core.checks_of_sure (Core.sure_pure _)

theorem Session.checks_unlockKnowledge (record : Record) (external : Option SymmetricKey)
    (password : Password) : (unlockKnowledge record external password).Checks [] :=
  (checks_passwordLock _ _).bind fun _ _ _ _ => StoredKey.checks_reveal _ _ _

theorem Session.finds_biometryLock (record : Record) (keys : UnlockKeys) :
    Finds (biometryLock record keys)
      ((parameterFaults (UnlockKeys.require .biometry keys.biometry)).map .wrongParameter
        ++ (faultIf record.keys.biometry.isNone .noBiometry).map .wrongState) := by
  refine (ofArgument_require _ _).finds.bind fun lock _ => ?_
  cases record.keys.biometry with
  | none => rfl
  | some stored => exact finds_ok (lock, stored)

/-- The work with the keys of a record, once everything that was given is there. -/
theorem Session.checks_revealKeys (s : Session) (record : Record) (lock : SymmetricKey)
    (password : Option Password) (biometry : Option (SymmetricKey × StoredKey)) :
    (do
      let external ← s.externalFor record
      let possession ← record.keys.possession.reveal lock external
      let knowledge ← match password with
        | some password => do pure [← unlockKnowledge record external password]
        | none => pure []
      let biometry ← match biometry with
        | some (lock, stored) => do pure [← stored.reveal lock external]
        | none => pure []
      return possession :: knowledge ++ biometry : Core (List SymmetricKey)).Checks
        ((stateFaults (s.externalFor record)).map .wrongState) := by
  refine (Core.screens_state (ofState_externalFor s record)).bind_work fun _ external _ _ => ?_
  refine (StoredKey.checks_reveal _ _ _).bind fun _ possession _ _ => ?_
  have last (knowledge : List SymmetricKey) : (do
      let biometry ← match biometry with
        | some (lock, stored) => do pure [← stored.reveal lock external]
        | none => pure []
      return possession :: knowledge ++ biometry : Core (List SymmetricKey)).Checks [] := by
    cases biometry with
    | none => exact Core.checks_of_sure (Core.sure_pure _)
    | some found => exact (StoredKey.checks_reveal _ _ _).bind fun _ _ _ _ =>
        Core.checks_of_sure (Core.sure_pure _)
  cases password with
  | none => exact last []
  | some password => exact (checks_unlockKnowledge _ _ _).bind fun _ key _ _ => last [key]

/-- The unlock keys are looked at before the record, and the record before any key in it. -/
theorem Session.checks_unlockSignatureKeys (s : Session) (record : Record) (keys : UnlockKeys)
    (factor : SignatureFactor) :
    (s.unlockSignatureKeys record keys factor).Checks
      ((keys.faults factor).map .wrongParameter ++ ((record.slotFaults factor).map .wrongState
        ++ (stateFaults (s.externalFor record)).map .wrongState)) := by
  unfold unlockSignatureKeys UnlockKeys.faults Record.slotFaults
  simp only [List.map_append, List.append_assoc]
  refine (Core.screens_argument (ofArgument_validate keys)).bind fun _ _ _ _ => ?_
  refine (Core.screens_argument (ofArgument_require _ _)).bind fun _ lock _ _ => ?_
  have password := Core.screens_argument (ofArgument_requirePassword keys)
  have biometry := Core.screens_checked (finds_biometryLock record keys)
  cases factor.usesKnowledge with
  | true =>
    refine (password.map some).bind fun _ password _ _ => ?_
    cases factor.usesBiometry with
    | true =>
      have both := (biometry.map some).bind fun _ biometry _ _ =>
        checks_revealKeys s record lock password biometry
      rw [List.append_assoc] at both
      exact both
    | false => exact checks_revealKeys s record lock password none
  | false =>
    cases factor.usesBiometry with
    | true =>
      have both := (biometry.map some).bind fun _ biometry _ _ =>
        checks_revealKeys s record lock none biometry
      rw [List.append_assoc] at both
      exact both
    | false => exact checks_revealKeys s record lock none none

theorem Session.checks_unlockTransportKey (s : Session) (record : Record) (keys : UnlockKeys) :
    (s.unlockTransportKey record keys).Checks ((keys.faults .possession).map .wrongParameter
      ++ (stateFaults (s.externalFor record)).map .wrongState) := by
  unfold unlockTransportKey UnlockKeys.faults
  simp only [List.map_append, List.append_assoc]
  refine (Core.screens_argument (ofArgument_validate keys)).bind fun _ _ _ _ => ?_
  refine (Core.screens_argument (ofArgument_require _ _)).bind fun _ lock _ _ => ?_
  refine (Core.screens_state (ofState_externalFor s record)).bind_work fun _ external _ _ => ?_
  exact StoredKey.checks_reveal _ _ _

/-! ## Operations -/

theorem Core.checks_record {found : Except Failure Record} (kind : OfState found)
    {f : Record → Core β} {faults : Record → Faults}
    (h : ∀ record, found = .ok record → (f record).Checks (faults record).inOrder) :
    (liftM found >>= f).Checks (Faults.ofRecord found faults).inOrder := by
  cases found with
  | ok record =>
    have passed : (liftM (Except.ok record : Except Failure Record) : Core Record).Screens [] :=
      screens_checked (finds_ok record)
    exact passed.bind fun _ _ _ given => by cases given; exact h record rfl
  | error e =>
    obtain ⟨why, rfl⟩ := kind e rfl
    exact fun a => ⟨a, rfl⟩

theorem Change.checks_record {found : Except Failure Record} (kind : OfState found)
    {f : Record → Change Session β} {faults : Record → Faults}
    (h : ∀ record, found = .ok record → (f record).Checks s (faults record).inOrder) :
    (liftM found >>= f).Checks s (Faults.ofRecord found faults).inOrder := by
  cases found with
  | ok record =>
    have passed : (liftM (Except.ok record : Except Failure Record) >>= f).Checks s
        ([] ++ (faults record).inOrder) :=
      checks_find_bind (finds_ok record) fun _ given => by cases given; exact h record rfl
    exact passed
  | error e =>
    obtain ⟨why, rfl⟩ := kind e rfl
    exact fun a => ⟨s, a, rfl⟩

namespace Session

open Change

theorem checks_ask {question : Session → Core α} {faults : List Failure}
    (h : (question s).Checks faults) : (ask question).Checks s faults :=
  checks_object_bind (checks_liftM h)

/-- Once an operation enters its stage, it is done. -/
theorem checks_enter_note (stage : Stage) (event : Event) (outcome : α) (s : Session) :
    (do
      enter stage
      Core.note event
      return outcome : Change Session α).Checks s [] := by
  refine checks_of_sureAt ((sureAt_enter stage s).bind fun _ _ _ _ _ => ?_)
  exact (sureAt_note event).bind fun _ _ _ _ _ => sureAt_pure outcome

/-! ### Activation -/

theorem checks_start (recovery : Option RecoveryData) (s : Session) : (start recovery).Checks s [] := by
  refine (checks_liftM (Core.checks_of_sure KeyPair.sure_generate)).bind fun _ pair _ _ _ => ?_
  exact checks_enter_note _ _ _ _

theorem sure_verify (key : PublicKey) (message signature : Bytes) :
    (Ecdsa.verify key message signature).Sure := fun a =>
  ⟨_, Ecdsa.gives_verify key message signature a⟩

theorem checks_verify (code : ActivationCode) (key : PublicKey) : (code.verify key).Checks [] := by
  unfold ActivationCode.verify
  cases code.signature with
  | none => exact Core.checks_of_sure (Core.sure_pure ())
  | some signature =>
    refine (Core.checks_reasoned _).bind fun _ octets _ _ => ?_
    refine (Core.checks_of_sure (sure_verify _ _ _)).bind fun _ valid _ _ => ?_
    cases valid with
    | true => exact Core.checks_of_sure (Core.sure_pure ())
    | false => exact Core.checks_refuse _

theorem sure_checkActivation (text : String) : (Code.checkActivation text).Sure := fun a =>
  ⟨_, Code.gives_checkActivation text a⟩

theorem checks_checkCode (s : Session) (code : ActivationCode) :
    (s.checkCode code).Checks
      ((faultIf (! Code.isActivation code.code) .activationCode).map .wrongParameter) := by
  refine (Core.screens_of_sure (sure_checkActivation _)).bind fun a valid a' checked => ?_
  obtain ⟨_, known⟩ := Code.gives_checkActivation code.code a
  obtain ⟨rfl, -⟩ := checked.unique known
  cases Code.isActivation code.code with
  | true => exact checks_verify code s.masterKey
  | false => exact (Core.screens_wrongParameter _).bind_work fun _ _ _ _ => checks_verify code s.masterKey

theorem checks_begin (code : Option ActivationCode) (s : Session) :
    (begin code).Checks s ((Operation.begin code).faults s).inOrder := by
  refine checks_object_bind (checks_find_bind (ofState_requireEmpty s).finds fun _ _ => ?_)
  cases code with
  | none => exact checks_start none s
  | some code =>
    simp only [Operation.faults, List.map_nil, faultIf_false, List.append_nil]
    exact (checks_liftM (checks_checkCode s code)).bind fun _ _ _ _ _ => checks_start none _

theorem screens_parseRecovery (code : String) :
    (Code.parseRecovery code).Screens
      ((faultIf (! Code.isRecovery code) .recoveryCode).map .wrongParameter) := by
  cases valid : Code.isRecovery code with
  | true => exact fun a => ⟨_, Code.gives_parseRecovery valid a⟩
  | false => exact Code.result_parseRecovery_of_false valid

theorem checks_beginRecovery (code puk : String) (s : Session) :
    (beginRecovery code puk).Checks s ((Operation.beginRecovery code puk).faults s).inOrder := by
  refine checks_object_bind (checks_find_bind (ofState_requireEmpty s).finds fun _ _ => ?_)
  simp only [Operation.faults, List.map_append, List.append_assoc]
  refine checks_screen_bind (screens_parseRecovery code) fun _ _ _ _ => ?_
  exact Checks.unless (checks_start _ s)

theorem checks_checkRecoveryData (data : Option RecoveryData) :
    (checkRecoveryData data).Checks
      ((faultIf (data.any fun data => ! (Code.isRecovery data.code && Code.isPuk data.puk))
        .serverRecovery).map .wrongParameter) := by
  cases data with
  | none => exact Core.checks_of_sure (Core.sure_pure ())
  | some data =>
    obtain ⟨code, puk⟩ := data
    refine (Core.screens_of_sure (sure_checkActivation _)).bind fun a valid a' checked => ?_
    obtain ⟨_, known⟩ := Code.gives_checkActivation (Code.unmarked code) a
    have same : valid = Code.isRecovery code := (checked.unique known).1
    simp only [same, Option.any_some]
    cases Code.isRecovery code with
    | false => exact fun a => ⟨a, rfl⟩
    | true =>
      cases digits : Code.isPuk puk with
      | false => exact fun a => ⟨a, rfl⟩
      | true => exact Core.checks_of_sure (Core.sure_pure ())

theorem checks_establish (answer : ActivationAnswer) (s : Session) :
    (establish answer).Checks s ((Operation.establish answer).faults s).inOrder := by
  refine checks_object_bind ?_
  simp only [Operation.faults]
  cases s.stage with
  | begun pair recovery =>
    simp only [Faults.inOrder, List.map_nil, List.map_append, faultIf_false, List.append_nil,
      List.nil_append]
    refine Checks.when Iff.rfl ?_
    refine (checks_liftM (checks_checkRecoveryData answer.recovery)).bind fun _ _ _ _ _ => ?_
    refine (checks_liftM (Core.checks_reasoned _)).bind fun _ keyBytes _ _ _ => ?_
    refine (checks_liftM (Core.checks_reasoned _)).bind fun _ serverKey _ _ _ => ?_
    refine (checks_liftM (Core.checks_reasoned _)).bind fun _ counterData _ _ _ => ?_
    cases recovery with
    | none => exact checks_enter_note _ _ _ _
    | some data => exact (checks_of_sureAt (sureAt_note _)).bind fun _ _ _ _ _ => checks_enter_note _ _ _ _
  | _ => exact fun a => ⟨s, a, rfl⟩

/-- The lock keys of a new activation are looked at as unlock keys are, and the password is long enough
besides. -/
theorem finds_locks (keys : UnlockKeys) : Finds (locks keys) (keys.lockFaults.map .wrongParameter) := by
  unfold locks UnlockKeys.lockFaults UnlockKeys.faults
  simp only [SignatureFactor.usesKnowledge, SignatureFactor.usesBiometry, if_true, Bool.false_eq_true,
    if_false, List.append_nil, List.map_append, List.append_assoc]
  refine (ofArgument_validate keys).finds.bind fun _ valid => ?_
  refine (ofArgument_require _ _).finds.bind fun possession _ => ?_
  refine (ofArgument_requirePassword keys).finds.bind fun password given => ?_
  have present : keys.password = some password := by
    unfold UnlockKeys.requirePassword at given
    cases found : keys.password with
    | none =>
      rw [found] at given
      cases given
    | some other =>
      rw [found] at given
      cases given
      rfl
  -- A biometry key that is no key was refused with the first check.
  obtain ⟨_, _, biometry⟩ := except_bind_eq_ok_iff.1 valid
  obtain ⟨lock, biometry, _⟩ := except_bind_eq_ok_iff.1 biometry
  rw [present, biometry]
  cases acceptable : password.isAcceptable with
  | true =>
    simp only [Option.any_some, acceptable, Bool.not_true, faultIf_false, List.map_nil]
    exact finds_ok _
  | false =>
    simp only [Option.any_some, acceptable, Bool.not_false, faultIf_true]
    exact rfl

theorem checks_commit (keys : UnlockKeys) (s : Session) :
    (commit keys).Checks s ((Operation.commit keys).faults s).inOrder := by
  refine checks_object_bind ?_
  simp only [Operation.faults]
  cases s.stage with
  | established h =>
    simp only [Faults.inOrder, List.map_nil, faultIf_false, List.nil_append]
    refine checks_find_bind (finds_locks keys) fun locks _ => ?_
    refine (checks_liftM (Core.checks_of_sure (sure_storeKeys _ _ _))).bind fun _ stored _ _ _ => ?_
    refine (checks_liftM (Core.checks_of_sure (KeyWrap.sure_wrap _ _))).bind fun _ _ _ _ _ => ?_
    exact checks_of_sureAt ((sureAt_note _).bind fun _ _ _ _ _ => sureAt_enter _ _)
  | _ => exact fun a => ⟨s, a, rfl⟩

theorem checks_remove (s : Session) : remove.Checks s (Operation.remove.faults s).inOrder := by
  refine checks_object_bind ?_
  simp only [Operation.faults]
  cases s.stage with
  | activated record =>
    exact checks_of_sureAt ((sureAt_note _).bind fun _ _ _ _ _ => sureAt_enter _ _)
  | removed => exact checks_of_sureAt (sureAt_pure ())
  | _ => exact fun a => ⟨s, a, rfl⟩

theorem checks_reset (s : Session) : reset.Checks s [] :=
  checks_object_bind (checks_of_sureAt ((sureAt_enter _ _).bind fun _ _ _ _ _ => sureAt_note _))

/-! ### Signing -/

/-- A signature is made of the counter a record has, with one to three keys. -/
theorem checks_compute {found : List SymmetricKey} (unlocks : s.Unlocks record keys factor found)
    (data : Bytes) :
    (liftM (Signature.compute found record.counter record.version data) : Core String).Checks [] := by
  obtain ⟨value, computed⟩ := Signature.exists_compute unlocks.length record.counter data
  have made : Signature.compute found record.counter record.version data = .ok value := computed
  rw [made]
  exact Core.checks_of_sure (Core.sure_pure value)

theorem checks_sign (request : Request) (keys : UnlockKeys) (factor : SignatureFactor) (s : Session) :
    (sign request keys factor).Checks s ((Operation.sign request keys factor).faults s).inOrder := by
  refine checks_object_bind (checks_record (ofState_activeRecord s) fun record active => ?_)
  simp only [Faults.inOrder, Request.onlineFaults, List.map_append, List.map_nil, faultIf_false,
    List.nil_append, List.append_assoc]
  refine checks_find_bind (ofState_next record.counter).finds fun counter _ => ?_
  refine checks_find_bind (ofArgument_validateRequest request).finds fun _ _ => ?_
  refine Checks.when Iff.rfl ?_
  refine (checks_liftM (checks_unlockSignatureKeys s record keys factor)).bind fun _ found _ _ reached => ?_
  obtain ⟨unlocks, -⟩ := gives_unlockSignatureKeys.1 (gives_liftM.1 reached).1
  refine (checks_liftM (Core.checks_of_sure (Core.sure_draw 16))).bind fun _ drawn _ _ _ => ?_
  refine (checks_liftM (checks_compute unlocks _)).bind fun _ value _ _ _ => ?_
  exact checks_enter_note _ _ _ _

theorem checks_requestVault (request : Request) (keys : UnlockKeys) (factor : SignatureFactor)
    (s : Session) :
    (requestVault request keys factor).Checks s
      ((Operation.requestVault request keys factor).faults s).inOrder := by
  refine checks_object_bind (checks_record (ofState_activeRecord s) fun record active => ?_)
  refine Checks.when decide_eq_true_iff ?_
  refine Checks.map ?_ _
  have signs := checks_sign request keys factor s
  simp only [Operation.faults, Faults.ofRecord, active] at signs
  exact signs

theorem checks_confirmRecovery (code : String) (keys : UnlockKeys) (factor : SignatureFactor)
    (s : Session) :
    (confirmRecovery code keys factor).Checks s
      ((Operation.confirmRecovery code keys factor).faults s).inOrder := by
  refine checks_object_bind (checks_record (ofState_activeRecord s) fun record active => ?_)
  simp only [Faults.inOrder, List.map_append, List.map_nil, faultIf_false, List.nil_append,
    List.append_assoc]
  refine checks_screen_bind (screens_parseRecovery code) fun _ parsed _ _ => ?_
  refine Checks.when decide_eq_true_iff ?_
  have signs := checks_sign ⟨"POST", Recovery.confirmUri, Bytes.ofText (Recovery.bodyText parsed), none⟩
    keys factor s
  simp only [Operation.faults, Faults.ofRecord, active] at signs
  refine signs.bind fun _ signature s₁ _ signed => ?_
  obtain ⟨next, usable⟩ := activeRecord_of_sign signed
  refine checks_object_bind (checks_of_sureAt ((sureAt_liftM_ok usable).bind fun _ record _ _ _ => ?_))
  refine (sureAt_setRecord _ _).bind fun _ _ _ _ _ => sureAt_ite (sureAt_pure _) ?_
  exact (sureAt_note _).bind fun _ _ _ _ _ => sureAt_pure _

theorem checks_computeOffline {found : List SymmetricKey} (unlocks : s.Unlocks record keys factor found)
    (nonce : Octets 16) (data : Bytes) :
    (liftM (Signature.computeOffline found nonce.bytes data) : Core String).Checks [] := by
  obtain ⟨value, computed⟩ := Signature.exists_computeOffline unlocks.length nonce data
  rw [computed]
  exact Core.checks_of_sure (Core.sure_pure value)

theorem checks_signOffline (request : Request) (keys : UnlockKeys) (factor : SignatureFactor)
    (s : Session) :
    (s.signOffline request keys factor).Checks
      ((Operation.signOffline request keys factor).faults s).inOrder := by
  refine Core.checks_record (ofState_activeRecord s) fun record active => ?_
  simp only [Faults.inOrder, Request.offlineFaults, List.map_append, List.map_nil, faultIf_false,
    List.nil_append, List.append_assoc]
  refine (Core.screens_argument (ofArgument_validateRequest request)).bind fun _ _ _ _ => ?_
  unfold Request.isOffline Request.garbled
  cases request.offlineNonce with
  | none => exact fun a => ⟨a, rfl⟩
  | some nonce =>
    refine (Core.screens_reasoned (Text.Base64.decodeOctets 16 nonce)).bind fun _ octets _ _ => ?_
    refine (checks_unlockSignatureKeys s record keys factor).bind fun _ found _ reached => ?_
    exact checks_computeOffline (gives_unlockSignatureKeys.1 reached).1 octets _

/-! ### Keeping -/

theorem checks_decodeStatus (encrypted : EncryptedStatus) (keys : UnlockKeys) (s : Session) :
    (s.decodeStatus encrypted keys).Checks ((Operation.decodeStatus encrypted keys).faults s).inOrder := by
  refine Core.checks_record (ofState_committedRecord s) fun record _ => ?_
  refine (checks_unlockTransportKey s record keys).bind fun _ transport _ _ => ?_
  refine (Core.checks_reasoned _).bind fun _ status _ _ => ?_
  cases record.counter with
  | linear value => exact Core.checks_of_sure (Core.sure_pure _)
  | hashed data => exact Core.checks_of_sure (Core.sure_pure _)

theorem checks_applyStatus (status : Status) (s : Session) :
    (applyStatus status).Checks s ((Operation.applyStatus status).faults s).inOrder := by
  refine checks_object_bind ?_
  simp only [Operation.faults, committedRecord]
  cases s.stage with
  | activated record =>
    cases status.state with
    | active =>
      refine checks_of_sureAt (sureAt_ite ?_ (sureAt_setRecord _ _))
      exact (sureAt_note _).bind fun _ _ _ _ _ => sureAt_setRecord _ _
    | blocked =>
      refine checks_of_sureAt (sureAt_ite (sureAt_setRecord _ _) ?_)
      exact (sureAt_note _).bind fun _ _ _ _ _ => sureAt_setRecord _ _
    | removed => exact checks_of_sureAt ((sureAt_note _).bind fun _ _ _ _ _ => sureAt_enter _ _)
    | created => exact fun a => ⟨s, a, rfl⟩
    | pendingCommit => exact fun a => ⟨s, a, rfl⟩
  | _ => exact fun a => ⟨s, a, rfl⟩

theorem checks_upgrade (data : UpgradeData) (s : Session) :
    (upgrade data).Checks s ((Operation.upgrade data).faults s).inOrder := by
  refine checks_object_bind (checks_record (ofState_activeRecord s) fun record _ => ?_)
  cases record.version with
  | v3 => exact fun a => ⟨s, a, rfl⟩
  | v2 =>
    refine (checks_liftM (Core.checks_reasoned _)).bind fun _ counter _ _ _ => ?_
    exact checks_of_sureAt ((sureAt_setRecord _ _).bind fun _ _ _ _ _ => sureAt_note _)

theorem checks_deserialize (bytes : Bytes) (s : Session) : (deserialize bytes).Checks s [] := by
  refine (checks_liftM (Core.checks_reasoned _)).bind fun _ stored _ _ _ => ?_
  exact checks_of_sureAt ((sureAt_enter _ _).bind fun _ _ _ _ _ => sureAt_note _)

theorem checks_changePassword (old new : Password) (s : Session) :
    (changePassword old new).Checks s ((Operation.changePassword old new).faults s).inOrder := by
  refine checks_object_bind (checks_record (ofState_activeRecord s) fun record _ => ?_)
  refine Checks.unless ?_
  refine checks_find_work (ofState_externalFor s record).finds fun external _ => ?_
  refine (checks_liftM (checks_unlockKnowledge _ _ _)).bind fun _ knowledge _ _ _ => ?_
  refine (checks_liftM (Core.checks_of_sure (Core.sure_draw 16))).bind fun _ salt _ _ _ => ?_
  refine (checks_liftM (checks_passwordLock _ _)).bind fun _ lock _ _ _ => ?_
  refine (checks_liftM (Core.checks_of_sure (StoredKey.sure_protect _ _ _))).bind fun _ _ _ _ _ => ?_
  exact checks_of_sureAt ((sureAt_setRecord _ _).bind fun _ _ _ _ _ => sureAt_note _)

theorem checks_removeBiometry (s : Session) :
    removeBiometry.Checks s (Operation.removeBiometry.faults s).inOrder := by
  refine checks_object_bind (checks_record (ofState_activeRecord s) fun record _ => ?_)
  refine checks_of_sureAt ((sureAt_setRecord _ s).bind fun _ _ _ _ _ => ?_)
  exact sureAt_ite (sureAt_note _) (sureAt_pure _)

theorem checks_storeBiometry (key lock : SymmetricKey) (active : s.activeRecord = .ok record) :
    (storeBiometry key lock).Checks s ((stateFaults (s.externalFor record)).map .wrongState) := by
  have here : Finds s.activeRecord [] := ⟨record, active⟩
  refine checks_object_bind (checks_find_bind here fun found same => ?_)
  obtain rfl := Except.ok.inj (active.symm.trans same)
  refine checks_find_work (ofState_externalFor s record).finds fun external _ => ?_
  refine (checks_liftM (Core.checks_of_sure (StoredKey.sure_protect _ _ _))).bind fun _ _ _ _ _ => ?_
  exact checks_of_sureAt ((sureAt_setRecord _ _).bind fun _ _ _ _ _ => sureAt_note _)

/-! ### The server -/

theorem checks_verifySigned (signed : SignedData) (s : Session) :
    (s.verifySigned signed).Checks ((Operation.verifySigned signed).faults s).inOrder := by
  have verified (key : PublicKey) : (do
      unless ← Ecdsa.verify key signed.data signed.signature do Core.refuse .serverSignature
      : Core Unit).Checks [] := by
    refine (Core.checks_of_sure (sure_verify _ _ _)).bind fun _ valid _ _ => ?_
    cases valid with
    | true => exact Core.checks_of_sure (Core.sure_pure ())
    | false => exact Core.checks_refuse _
  unfold verifySigned
  simp only [Operation.faults]
  cases signed.key with
  | master => exact verified s.masterKey
  | personalized =>
    refine Core.checks_record (ofState_activeRecord s) fun record _ => ?_
    exact (Core.checks_reasoned _).bind fun _ key _ _ => verified key

theorem checks_encryptor (scope : Scope) (keys : UnlockKeys) (info1 : Bytes) (s : Session) :
    (s.encryptor scope keys info1).Checks ((Operation.encryptor scope keys info1).faults s).inOrder := by
  cases scope with
  | application => exact Core.checks_of_sure (Core.sure_pure _)
  | activation =>
    refine Core.checks_record (ofState_activeRecord s) fun record _ => ?_
    refine (checks_unlockTransportKey s record keys).bind fun _ transport _ _ => ?_
    exact Core.checks_of_sure (Core.sure_pure _)

end Session

namespace Vault

open Change Session

/-! ### Vaults -/

theorem checks_unlock (authorization : VaultAuthorization) (keys : UnlockKeys) (encryptedKey : String)
    (s : Session) :
    (unlock s authorization keys encryptedKey).Checks
      ((Operation.unlockVault authorization keys encryptedKey).faults s).inOrder := by
  refine Core.checks_record (ofState_activeRecord s) fun record _ => ?_
  simp only [Faults.inOrder, List.map_append, List.map_nil, faultIf_false, List.nil_append,
    List.append_assoc]
  refine Core.Checks.when decide_eq_true_iff (Core.Checks.when decide_eq_true_iff ?_)
  refine (checks_unlockSignatureKeys s record keys _).bind fun _ found _ reached => ?_
  -- Keys that reach the signature keys are fit for the transport key.
  have unlocks := (gives_unlockSignatureKeys.1 reached).1
  obtain ⟨lock, external, -, -, -, given, outside, -⟩ := unlocks.reached
  have transport := checks_unlockTransportKey s record keys
  simp only [UnlockKeys.faults, unlocks.valid, given, outside] at transport
  refine transport.bind fun _ transport _ _ => ?_
  refine (Core.checks_reasoned _).bind fun _ key _ _ => ?_
  refine (Core.checks_reasoned _).bind fun _ privateBytes _ _ => ?_
  refine (Core.checks_reasoned _).bind fun _ pair _ _ => ?_
  exact Core.checks_of_sure ((Core.sure_note _).bind fun _ => Core.sure_pure _)

theorem checks_addBiometry (vault : Vault) (keys : UnlockKeys) (s : Session) :
    (vault.addBiometry keys).Checks s ((Operation.addBiometry vault keys).faults s).inOrder := by
  refine checks_object_bind (checks_record (ofState_activeRecord s) fun record active => ?_)
  simp only [Faults.inOrder, List.map_append, List.map_nil, faultIf_false, List.nil_append,
    List.append_assoc]
  refine Checks.when decide_eq_true_iff ?_
  refine checks_find_bind (ofArgument_validate keys).finds fun _ _ => ?_
  refine checks_find_bind (ofArgument_require _ _).finds fun lock _ => ?_
  exact checks_screen_bind (Core.screens_reasoned _) fun _ serverKey _ _ =>
    checks_storeBiometry _ lock active

end Vault

/-! ## Reports -/

/-- Every operation looks for its faults in the order of their places. -/
theorem Operation.checks_run (op : Operation) (s : Session) :
    op.run.Checks s (op.faults s).inOrder := by
  cases op with
  | begin code => exact (Session.checks_begin code s).map _
  | beginRecovery code puk => exact (Session.checks_beginRecovery code puk s).map _
  | establish answer => exact (Session.checks_establish answer s).map _
  | commit keys => exact (Session.checks_commit keys s).map _
  | remove => exact (Session.checks_remove s).map _
  | reset => exact (Session.checks_reset s).map _
  | sign request keys factor => exact (Session.checks_sign request keys factor s).map _
  | requestVault request keys factor => exact (Session.checks_requestVault request keys factor s).map _
  | confirmRecovery code keys factor => exact (Session.checks_confirmRecovery code keys factor s).map _
  | applyStatus status => exact (Session.checks_applyStatus status s).map _
  | upgrade data => exact (Session.checks_upgrade data s).map _
  | deserialize bytes => exact (Session.checks_deserialize bytes s).map _
  | changePassword old new => exact (Session.checks_changePassword old new s).map _
  | removeBiometry => exact (Session.checks_removeBiometry s).map _
  | addBiometry vault keys => exact (Vault.checks_addBiometry vault keys s).map _
  | serialize => exact (Session.checks_ask (Core.checks_of_sure (Core.sure_pure _))).map _
  | signOffline request keys factor =>
    exact (Session.checks_ask (Session.checks_signOffline request keys factor s)).map _
  | decodeStatus encrypted keys =>
    exact (Session.checks_ask (Session.checks_decodeStatus encrypted keys s)).map _
  | unlockVault authorization keys encryptedKey =>
    exact (Session.checks_ask (Vault.checks_unlock authorization keys encryptedKey s)).map _
  | deriveOnce authorization keys encryptedKey index =>
    refine (Session.checks_ask ?_).map _
    exact (Vault.checks_unlock authorization keys encryptedKey s).bind fun _ _ _ _ =>
      Core.checks_of_sure (Core.sure_pure _)
  | verifySigned signed => exact (Session.checks_ask (Session.checks_verifySigned signed s)).map _
  | encryptor scope keys info1 =>
    exact (Session.checks_ask (Session.checks_encryptor scope keys info1 s)).map _

/-- A call with which something is wrong ends with the first of its faults, and changes nothing. -/
theorem Operation.fails_first {op : Operation} {e : Failure} {rest : List Failure}
    (order : (op.faults s).inOrder = e :: rest) (a : Ambient) :
    ∃ a', op.run.result s a = ((.error e, s), a') := by
  have checked := op.checks_run s
  rw [order] at checked
  obtain ⟨s', a', failed⟩ := checked a
  obtain rfl := op.atomic_run s a e s' a' failed
  exact ⟨a', failed⟩

/-- How a call ends, as a binding sees it. -/
def Operation.code (op : Operation) (s : Session) (a : Ambient) : ResultCode :=
  ResultCode.of (op.run.result s a).1.1

/-- The order of reports as it is meant to be. A fault of the session is reported whatever the arguments
are; if there is none, and the session has what they ask for, a fault of the arguments is reported. -/
def Operation.Described (op : Operation) (s : Session) : Prop :=
  ∀ a, ((op.faults s).Refused → op.code s a = .wrongState)
    ∧ (¬(op.faults s).Refused → (op.faults s).wanted = [] → (op.faults s).Mistaken →
        op.code s a = .wrongParameter)

theorem ResultCode.of_error (e : Failure) : ResultCode.of (.error e : Except Failure α) = e.code := by
  cases e <;> rfl

theorem Operation.code_of_faults {op : Operation} {code : ResultCode}
    (h : (op.faults s).code? = some code) (a : Ambient) : op.code s a = code := by
  unfold Faults.code? at h
  cases order : (op.faults s).inOrder with
  | nil =>
    rw [order] at h
    cases h
  | cons e rest =>
    rw [order] at h
    obtain ⟨a', failed⟩ := fails_first order a
    unfold Operation.code
    rw [failed, ResultCode.of_error]
    exact Option.some.inj h

/-- The order is as described where the first fault has the right code. -/
theorem Operation.described_iff {op : Operation} :
    op.Described s ↔ ((op.faults s).Refused → (op.faults s).code? = some .wrongState)
      ∧ (¬(op.faults s).Refused → (op.faults s).wanted = [] → (op.faults s).Mistaken →
          (op.faults s).code? = some .wrongParameter) := by
  have reported (code : ResultCode) (h : (op.faults s).Refused ∨ (op.faults s).Mistaken) :
      (∀ a, op.code s a = code) ↔ (op.faults s).code? = some code := by
    obtain ⟨first, known⟩ := Option.isSome_iff_exists.1 (Faults.code?_isSome h)
    constructor
    · intro all
      rw [known, ← all ⟨⟨[], 7⟩, 0, []⟩, code_of_faults known]
    · exact fun same => code_of_faults same
  constructor
  · intro described
    refine ⟨fun refused => ?_, fun kept has mistaken => ?_⟩
    · exact (reported _ (.inl refused)).1 fun a => (described a).1 refused
    · exact (reported _ (.inr mistaken)).1 fun a => (described a).2 kept has mistaken
  · rintro ⟨first, second⟩ a
    refine ⟨fun refused => ?_, fun kept has mistaken => ?_⟩
    · exact (reported _ (.inl refused)).2 (first refused) a
    · exact (reported _ (.inr mistaken)).2 (second kept has mistaken) a

/-- **The first fault is reported.** A call with which something is wrong ends with the first of its
faults, and leaves the session as it was; without any it can only fail over key material. The code of
what is reported follows the state, then the arguments, exactly where no fault is looked at too late. -/
theorem Operation.reports_first_fault (op : Operation) (s : Session) :
    (∀ e rest, (op.faults s).inOrder = e :: rest →
        ∀ a, ∃ a', op.run.result s a = ((.error e, s), a'))
    ∧ ((op.faults s).inOrder = [] →
        ∀ a e s' a', op.run.result s a = ((.error e, s'), a') → e.OfKeyMaterial)
    ∧ (op.Described s ↔ ¬(op.faults s).Late) := by
  refine ⟨fun e rest order a => fails_first order a, ?_, ?_⟩
  · intro order
    have checked := op.checks_run s
    rw [order] at checked
    exact checked
  · rw [described_iff, Faults.not_late_iff]

/-- An exhausted counter is reported before a request that cannot be signed and keys that are not there,
as it should be. -/
theorem Operation.reports_exhausted :
    let s := Session.counting (UInt64.ofNat (UInt64.size - 1))
    let op : Operation := .sign ⟨"PATCH", "", [], none⟩ {} .possession
    (∀ a, ∃ a', op.run.result s a = ((.error (.wrongState .counterExhausted), s), a'))
      ∧ op.Described s := by
  intro s op
  obtain ⟨first, -, described⟩ := op.reports_first_fault s
  have exhausted : (op.faults s).stage ≠ [] := List.cons_ne_nil _ _
  exact ⟨first _ _ rfl, described.2 fun late => exhausted late.1⟩

/-- Where the order is not the described one. Without the external encryption key of its activation a
session reports missing unlock keys, and an offline nonce that does not decode hides that they are
missing. -/
theorem Operation.not_described :
    let a : Ambient := ⟨⟨[], 7⟩, 0, []⟩
    let online : Operation := .sign ⟨"POST", "/payment", [], none⟩ {} .possession
    let offline : Operation :=
      .signOffline ⟨"POST", "/payment", [], some "!!!!!!!!!!!!!!!!!!!!!!!!"⟩ {} .possession
    ∃ record, (Session.counting 5).stage = .activated record ∧
      let s := (Session.counting 5).at (.activated { record with usesExternal := true })
      (online.faults s).Refused ∧ online.code s a = .wrongParameter ∧ ¬online.Described s
      ∧ ¬(offline.faults (Session.counting 5)).Refused
      ∧ (offline.faults (Session.counting 5)).wanted = []
      ∧ (offline.faults (Session.counting 5)).Mistaken
      ∧ offline.code (Session.counting 5) a = .encryption ∧ ¬offline.Described (Session.counting 5) := by
  intro a online offline
  refine ⟨_, rfl, ?_⟩
  intro s
  have refused : (online.faults s).Refused := .inr (.inr (List.cons_ne_nil _ _))
  have reported : online.code s a = .wrongParameter := rfl
  have kept : ¬(offline.faults (Session.counting 5)).Refused := by
    rintro (h | h | h)
    · exact h rfl
    · exact h rfl
    · exact h rfl
  have mistaken : (offline.faults (Session.counting 5)).Mistaken := .inr (List.cons_ne_nil _ _)
  have hidden : offline.code (Session.counting 5) a = .encryption := by decide +kernel
  refine ⟨refused, reported, fun described => ?_, kept, rfl, mistaken, hidden, fun described => ?_⟩
  · exact ResultCode.noConfusion (reported.symm.trans ((described a).1 refused))
  · exact ResultCode.noConfusion (hidden.symm.trans ((described a).2 kept rfl mistaken))

end DeviceAuth
