import DeviceAuth.Proofs.Checks
import DeviceAuth.Proofs.Session.Operation

/-!
# What can be wrong with a call

`Operation.faults` lists what is wrong with a call, sorted by the place where the operation looks at it.
Each list is short: it holds what the checks of one place would report, and the checks themselves are
either checks of the state or checks of the arguments (`OfState`, `OfArgument`).

The order of the places is meant to be the state, then the arguments, then key material. `Faults.Late`
says that something is looked at too late for that, and `Faults.not_late_iff` that the first fault has
the right code wherever nothing is.
-/

set_option autoImplicit false

namespace DeviceAuth

/-! ## Faults of a call -/

/-- What is wrong with a call, place by place in the order in which an operation looks. -/
structure Faults where
  /-- The session is not in a state for the operation, whatever the arguments. -/
  stage : List StateFault := []
  /-- What is wrong with the arguments that are looked at next. -/
  arguments : List ParameterFault := []
  /-- The counter is exhausted, and only looked at here. -/
  counter : List StateFault := []
  /-- The nonce of an offline request has the length of one, but does not decode. -/
  nonce : Bool := false
  /-- What is wrong with the other arguments. -/
  further : List ParameterFault := []
  /-- The session has not what the arguments ask for. -/
  wanted : List StateFault := []
  /-- The key of the server in the record is none. -/
  serverKey : Bool := false
  /-- The record uses the external encryption key, and the session has none. -/
  external : List StateFault := []

namespace Faults

/-- All that is wrong, in the order of the places. -/
def inOrder (f : Faults) : List Failure :=
  f.stage.map .wrongState ++ (f.arguments.map .wrongParameter ++ (f.counter.map .wrongState
    ++ (faultIf f.nonce .encryption ++ (f.further.map .wrongParameter
      ++ (f.wanted.map .wrongState ++ (faultIf f.serverKey .encryption
        ++ f.external.map .wrongState))))))

/-- What is wrong once a record is there; before that, that it is not. -/
def ofRecord (found : Except Failure Record) (f : Record → Faults) : Faults :=
  match found with
  | .ok record => f record
  | .error _ => { stage := stateFaults found }

/-- The session is to blame, whatever the arguments are. -/
def Refused (f : Faults) : Prop := f.stage ≠ [] ∨ f.counter ≠ [] ∨ f.external ≠ []

/-- An argument is to blame. -/
def Mistaken (f : Faults) : Prop := f.arguments ≠ [] ∨ f.further ≠ []

/-- The code of the first fault. -/
def code? (f : Faults) : Option ResultCode := f.inOrder.head?.map Failure.code

/-- Something that should have been reported is looked at too late. Arguments hide a counter that is
exhausted or an external encryption key that is missing; an offline nonce hides other arguments or the
missing key; and other arguments or the key of the server hide the missing key. -/
def Late (f : Faults) : Prop :=
  f.stage = []
    ∧ if f.arguments ≠ [] then f.counter ≠ [] ∨ f.external ≠ []
      else f.counter = []
        ∧ if f.nonce then f.external ≠ [] ∨ f.wanted = [] ∧ f.further ≠ []
          else f.external ≠ [] ∧ (f.further ≠ [] ∨ f.wanted = [] ∧ f.serverKey = true)

variable {f : Faults}

/-- Whoever is to blame, there is a first fault. -/
theorem exists_first (h : f.Refused ∨ f.Mistaken) : ∃ e rest, f.inOrder = e :: rest := by
  cases order : f.inOrder with
  | cons e rest => exact ⟨e, rest, rfl⟩
  | nil =>
    simp only [inOrder, List.append_eq_nil_iff, List.map_eq_nil_iff] at order
    obtain ⟨stage, arguments, counter, -, further, -, -, external⟩ := order
    rcases h with (h | h | h) | (h | h)
    · exact absurd stage h
    · exact absurd counter h
    · exact absurd external h
    · exact absurd arguments h
    · exact absurd further h

theorem code?_isSome (h : f.Refused ∨ f.Mistaken) : f.code?.isSome = true := by
  obtain ⟨e, rest, order⟩ := exists_first h
  unfold code?
  rw [order]
  rfl

theorem refused_ofRecord {found : Except Failure Record} {f : Record → Faults}
    (state : OfState found) (h : ∀ record, found = .ok record → (f record).Refused) :
    (ofRecord found f).Refused := by
  cases found with
  | ok record => exact h record rfl
  | error e =>
    obtain ⟨why, rfl⟩ := state e rfl
    exact .inl (List.cons_ne_nil _ _)

/-- Where nothing is looked at too late, the first fault has the right code, and only there. -/
theorem not_late_iff :
    ¬f.Late ↔ (f.Refused → f.code? = some .wrongState)
      ∧ (¬f.Refused → f.wanted = [] → f.Mistaken → f.code? = some .wrongParameter) := by
  obtain ⟨stage, arguments, counter, nonce, further, wanted, serverKey, external⟩ := f
  unfold Late Refused Mistaken code? inOrder
  cases stage with
  | cons => simp [Failure.code, ResultCode.of]
  | nil =>
    cases arguments with
    | cons => cases counter <;> cases external <;> simp [Failure.code, ResultCode.of]
    | nil =>
      cases counter with
      | cons => simp [Failure.code, ResultCode.of]
      | nil =>
        cases nonce with
        | true =>
          cases external <;> cases further <;> cases wanted <;> simp [Failure.code, ResultCode.of]
        | false =>
          cases further with
          | cons => cases external <;> simp [Failure.code, ResultCode.of]
          | nil =>
            cases wanted with
            | cons => simp [Failure.code, ResultCode.of]
            | nil => cases serverKey <;> cases external <;> simp [Failure.code, ResultCode.of]

end Faults

/-- What is wrong with unlock keys, for a combination of factors. -/
def UnlockKeys.faults (keys : UnlockKeys) (factor : SignatureFactor) : List ParameterFault :=
  parameterFaults keys.validate ++ (parameterFaults (require .possession keys.possession)
    ++ ((if factor.usesKnowledge then parameterFaults keys.requirePassword else [])
      ++ if factor.usesBiometry then parameterFaults (require .biometry keys.biometry) else []))

/-- What is wrong with unlock keys that are to lock a new activation. -/
def UnlockKeys.lockFaults (keys : UnlockKeys) : List ParameterFault :=
  keys.faults .possessionKnowledge
    ++ faultIf (keys.password.any (! ·.isAcceptable)) .passwordTooShort

/-- What is wrong with a request that is signed online. -/
def Request.onlineFaults (request : Request) : List ParameterFault :=
  parameterFaults request.validate ++ faultIf request.isOffline .unexpectedNonce

/-- What is wrong with a request that is signed offline. -/
def Request.offlineFaults (request : Request) : List ParameterFault :=
  parameterFaults request.validate ++ faultIf (! request.isOffline) .nonceMissing

/-- The nonce of a request does not decode. -/
def Request.garbled (request : Request) : Bool :=
  request.offlineNonce.any fun nonce => ! (Text.Base64.decodeOctets 16 nonce : Except Reason (Octets 16)).isOk

/-- The record has no biometry key for these factors. -/
def Record.slotFaults (record : Record) (factor : SignatureFactor) : List StateFault :=
  faultIf (factor.usesBiometry && record.keys.biometry.isNone) .noBiometry

/-- What is wrong with a call. -/
def Operation.faults (s : Session) : Operation → Faults
  | begin code =>
    { stage := stateFaults s.requireEmpty
      arguments := faultIf (code.any (! Code.isActivation ·.code)) .activationCode }
  | beginRecovery code puk =>
    { stage := stateFaults s.requireEmpty
      arguments := faultIf (! Code.isRecovery code) .recoveryCode
        ++ faultIf (! Code.isPuk puk) .recoveryPuk }
  | establish answer =>
    match s.stage with
    | .begun _ _ =>
      { arguments := faultIf answer.activationId.isEmpty .activationIdEmpty
          ++ faultIf (answer.recovery.any fun data =>
            ! (Code.isRecovery data.code && Code.isPuk data.puk)) .serverRecovery }
    | _ => { stage := [.notBegun] }
  | commit keys =>
    match s.stage with
    | .established _ => { arguments := keys.lockFaults }
    | _ => { stage := [.notEstablished] }
  | remove =>
    match s.stage with
    | .activated _ => {}
    | .removed => {}
    | _ => { stage := [.nothingToRemove] }
  | reset => {}
  | sign request keys factor => .ofRecord s.activeRecord fun record =>
    { stage := stateFaults record.counter.next
      arguments := request.onlineFaults ++ keys.faults factor
      wanted := record.slotFaults factor
      external := stateFaults (s.externalFor record) }
  | requestVault request keys factor => .ofRecord s.activeRecord fun record =>
    { arguments := faultIf (factor.count < 2) .vaultFactors
      counter := stateFaults record.counter.next
      further := request.onlineFaults ++ keys.faults factor
      wanted := record.slotFaults factor
      external := stateFaults (s.externalFor record) }
  | confirmRecovery code keys factor => .ofRecord s.activeRecord fun record =>
    { arguments := faultIf (! Code.isRecovery code) .recoveryCode
        ++ faultIf (factor.count < 2) .recoveryFactors
      counter := stateFaults record.counter.next
      further := keys.faults factor
      wanted := record.slotFaults factor
      external := stateFaults (s.externalFor record) }
  | applyStatus status => .ofRecord s.committedRecord fun _ =>
    { wanted := faultIf (status.state = .created ∨ status.state = .pendingCommit) .serverUncommitted }
  | upgrade _ => .ofRecord s.activeRecord fun record =>
    { stage := faultIf (record.version ≠ .v2) .latestProtocol }
  | deserialize _ => {}
  | changePassword _ new => .ofRecord s.activeRecord fun record =>
    { arguments := faultIf (! new.isAcceptable) .newPasswordTooShort
      external := stateFaults (s.externalFor record) }
  | removeBiometry => .ofRecord s.activeRecord fun _ => {}
  | addBiometry vault keys => .ofRecord s.activeRecord fun record =>
    { arguments := faultIf (record.activationId ≠ vault.activationId) .foreignVault
        ++ (parameterFaults keys.validate
          ++ parameterFaults (UnlockKeys.require .biometry keys.biometry))
      serverKey := ! (PublicKey.ofBytes record.serverKey).isOk
      external := stateFaults (s.externalFor record) }
  | serialize => {}
  | signOffline request keys factor => .ofRecord s.activeRecord fun record =>
    { arguments := request.offlineFaults
      nonce := request.garbled
      further := keys.faults factor
      wanted := record.slotFaults factor
      external := stateFaults (s.externalFor record) }
  | decodeStatus _ keys => .ofRecord s.committedRecord fun record =>
    { arguments := keys.faults .possession
      external := stateFaults (s.externalFor record) }
  | unlockVault authorization keys _ | deriveOnce authorization keys _ _ =>
    .ofRecord s.activeRecord fun record =>
      { arguments :=
          faultIf (authorization.signature.activationId ≠ record.activationId) .foreignAuthorization
            ++ (faultIf (authorization.factor.count < 2) .vaultFactors
              ++ keys.faults authorization.factor)
        wanted := record.slotFaults authorization.factor
        external := stateFaults (s.externalFor record) }
  | verifySigned signed =>
    match signed.key with
    | .master => {}
    | .personalized => .ofRecord s.activeRecord fun _ => {}
  | encryptor scope keys _ =>
    match scope with
    | .application => {}
    | .activation => .ofRecord s.activeRecord fun record =>
      { arguments := keys.faults .possession
        external := stateFaults (s.externalFor record) }

/-! ## Kinds of checks -/

theorem ofState_requireEmpty (s : Session) : OfState s.requireEmpty := by
  unfold Session.requireEmpty
  cases s.stage <;> first | exact ofState_ok _ | exact ofState_wrongState _

theorem ofState_activeRecord (s : Session) : OfState s.activeRecord := by
  unfold Session.activeRecord
  cases s.stage with
  | activated record =>
    dsimp only
    split
    · exact ofState_wrongState _
    · exact ofState_ok _
  | _ => exact ofState_wrongState _

theorem ofState_committedRecord (s : Session) : OfState s.committedRecord := by
  unfold Session.committedRecord
  cases s.stage <;> first | exact ofState_ok _ | exact ofState_wrongState _

theorem ofState_externalFor (s : Session) (record : Record) : OfState (s.externalFor record) := by
  unfold Session.externalFor
  split
  · cases s.external with
    | some key => exact ofState_ok _
    | none => exact ofState_wrongState _
  · exact ofState_ok _

theorem ofState_next (counter : Counter) : OfState counter.next := by
  unfold Counter.next
  cases counter with
  | linear value =>
    dsimp only
    split
    · exact ofState_ok _
    · exact ofState_wrongState _
  | hashed data => exact ofState_ok _

theorem ofArgument_checkKey (role : KeyRole) (bytes : Bytes) :
    OfArgument (UnlockKeys.checkKey role bytes) := by
  unfold UnlockKeys.checkKey
  cases Octets.ofBytes? bytes with
  | none => exact ofArgument_wrongParameter _
  | some key =>
    dsimp only
    split
    · exact ofArgument_wrongParameter _
    · exact ofArgument_ok _

theorem ofArgument_checkGiven (role : KeyRole) (given : Option Bytes) :
    OfArgument (UnlockKeys.checkGiven role given) := by
  cases given with
  | none => exact ofArgument_ok _
  | some bytes => exact (ofArgument_checkKey role bytes).map some

theorem ofArgument_require (role : KeyRole) (given : Option Bytes) :
    OfArgument (UnlockKeys.require role given) := by
  cases given with
  | none => exact ofArgument_wrongParameter _
  | some bytes => exact ofArgument_checkKey role bytes

theorem ofArgument_validate (keys : UnlockKeys) : OfArgument keys.validate :=
  (ofArgument_checkGiven _ _).bind fun _ => (ofArgument_checkGiven _ _).bind fun _ => ofArgument_ok ()

theorem ofArgument_requirePassword (keys : UnlockKeys) : OfArgument keys.requirePassword := by
  unfold UnlockKeys.requirePassword
  cases keys.password with
  | none => exact ofArgument_wrongParameter _
  | some password => exact ofArgument_ok _

theorem ofArgument_validateRequest (request : Request) : OfArgument request.validate := by
  unfold Request.validate
  split
  · exact ofArgument_wrongParameter _
  · split
    · exact ofArgument_wrongParameter _
    · cases request.offlineNonce with
      | none => exact ofArgument_ok _
      | some nonce =>
        dsimp only
        split
        · exact ofArgument_ok _
        · exact ofArgument_wrongParameter _

end DeviceAuth
