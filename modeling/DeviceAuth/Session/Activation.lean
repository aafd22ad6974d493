import DeviceAuth.Session.Basic

/-!
# Activating a device

An activation takes three steps. The device draws a key pair and sends its public key, after checking
the code the user brought. The server answers with its own key, an identifier and the first counter,
and both sides derive the master secret. Then the keys of the activation are stored under what the
user will unlock them with, and the secret itself is forgotten.
-/

set_option autoImplicit false

namespace DeviceAuth

/-- What the device sends to start an activation. -/
structure ActivationRequest where
  /-- The device's public key, in Base64. -/
  deviceKey : String
  /-- The attributes of a recovery activation. -/
  identity : Option String
deriving DecidableEq

def ActivationRequest.describe (request : ActivationRequest) : String :=
  Text.Description.record "ActivationStep1Result"
    [("device_public_key", Text.quoted request.deviceKey),
     ("identity_attributes", Text.Description.option Text.quoted request.identity)]

/-- What the server answers. -/
structure ActivationAnswer where
  activationId : String
  /-- The server's key for this activation, in Base64. -/
  serverKey : String
  /-- The first counter, in Base64. -/
  counterData : String
  /-- A recovery code that belongs to the activation. -/
  recovery : Option RecoveryData
deriving DecidableEq

namespace ActivationAnswer

def describe (answer : ActivationAnswer) : String :=
  Text.Description.record "ActivationStep2Param"
    [("activation_id", Text.quoted answer.activationId),
     ("server_public_key", Text.quoted answer.serverKey),
     ("ctr_data", Text.quoted answer.counterData),
     ("activation_recovery", Text.Description.option RecoveryData.describe answer.recovery)]

def layout : Json.Layout :=
  ⟨["activationId", "serverPublicKey", "ctrData", "activationRecovery"], 3⟩

instance : JsonForm ActivationAnswer where
  toJson answer := Json.record
    [("activationId", toJson answer.activationId), ("serverPublicKey", toJson answer.serverKey),
     ("ctrData", toJson answer.counterData), ("activationRecovery", toJson answer.recovery)]
  ofJson? value := do
    match ← layout.fields? value with
    | [id, serverKey, counterData, recovery] =>
      return ⟨← Json.required? id, ← Json.required? serverKey, ← Json.required? counterData,
        ← Json.given? none recovery⟩
    | _ => none

end ActivationAnswer

/-- What the user compares and writes down once the keys are exchanged. -/
structure ActivationOutcome where
  fingerprint : String
  recovery : Option RecoveryData
deriving DecidableEq

def ActivationOutcome.describe (outcome : ActivationOutcome) : String :=
  Text.Description.record "ActivationStep2Result"
    [("activation_fingerprint", Text.quoted outcome.fingerprint),
     ("recovery_data", Text.Description.option RecoveryData.describe outcome.recovery)]

namespace Session

/-! ## First step -/

/-- An activation starts in an empty session. -/
def requireEmpty (s : Session) : Except Failure Unit :=
  match s.stage with
  | .empty => .ok ()
  | _ => .error (.wrongState .alreadyActivated)

/-- Draw the device's key pair. -/
def start (recovery : Option RecoveryData) : Change Session ActivationRequest := do
  let pair ← KeyPair.generate
  enter (.begun pair recovery)
  Core.note .started
  return ⟨pair.publicKey.base64, recovery.map RecoveryData.identity⟩

/-- Check a code: its checksum, and its signature if it has one. -/
def checkCode (s : Session) (code : ActivationCode) : Core Unit := do
  unless ← Code.checkActivation code.code do Core.wrongParameter .activationCode
  code.verify s.masterKey

/-- Start an activation, perhaps with a code. -/
def begin (code : Option ActivationCode) : Change Session ActivationRequest := do
  let s ← Change.object
  s.requireEmpty
  match code with
  | some code => s.checkCode code
  | none => pure ()
  start none

/-- Start an activation with recovery data. -/
def beginRecovery (code puk : String) : Change Session ActivationRequest := do
  let s ← Change.object
  s.requireEmpty
  let code ← Code.parseRecovery code
  unless Code.isPuk puk do Core.wrongParameter .recoveryPuk
  start (some ⟨code, puk⟩)

/-! ## Second step -/

/-- Check the recovery data of an answer. -/
def checkRecoveryData : Option RecoveryData → Core Unit
  | none => pure ()
  | some data => do
    unless ← Code.checkRecovery data.code do Core.wrongParameter .serverRecovery
    unless Code.isPuk data.puk do Core.wrongParameter .serverRecovery

/-- The outcome of a key exchange with the server. -/
def exchange (pair : KeyPair) (answer : ActivationAnswer) (serverKey : PublicKey)
    (counterData : Octets 16) : Handshake where
  pair
  activationId := answer.activationId
  serverKey
  master := Kdf.reduce (pair.sharedSecret serverKey)
  counterData
  boundCode := answer.recovery.map fun data => sha256 (Bytes.ofText data.code)

/-- Take the server's answer. -/
def establish (answer : ActivationAnswer) : Change Session ActivationOutcome := do
  match (← Change.object).stage with
  | .begun pair recovery => do
    if answer.activationId.isEmpty then Core.wrongParameter .activationIdEmpty
    checkRecoveryData answer.recovery
    let keyBytes ← (Text.Base64.decode answer.serverKey : Except Reason Bytes)
    let serverKey ← (PublicKey.ofBytes keyBytes : Except Reason PublicKey)
    let counterData ← (Text.Base64.decodeOctets 16 answer.counterData : Except Reason (Octets 16))
    if recovery.isSome then Core.note .completingRecovery
    enter (.established (exchange pair answer serverKey counterData))
    Core.note (.established answer.activationId)
    return ⟨DeviceAuth.fingerprint pair.publicKey.bytes answer.activationId serverKey.bytes,
      answer.recovery⟩
  | _ => Core.wrongState .notBegun

/-! ## Third step -/

/-- The lock keys of a new activation. -/
structure Locks where
  possession : SymmetricKey
  password : Password
  biometry : Option SymmetricKey

/-- The lock keys in some unlock keys. -/
def locks (keys : UnlockKeys) : Except Failure Locks := do
  keys.validate
  let possession ← UnlockKeys.require .possession keys.possession
  let password ← keys.requirePassword
  unless password.isAcceptable do throw (.wrongParameter .passwordTooShort)
  let biometry ← UnlockKeys.checkGiven .biometry keys.biometry
  return ⟨possession, password, biometry⟩

/-- Store the factor keys of a master secret. -/
def storeKeys (master : SymmetricKey) (locks : Locks) (external : Option SymmetricKey) :
    Core FactorKeys := do
  let salt ← Core.draw 16
  let knowledgeLock ← Kdf.passwordLock locks.password.bytes salt.bytes
  let biometry ← match locks.biometry with
    | some lock => some <$> StoredKey.protect (master.derive KeyIndex.biometry) lock external
    | none => pure none
  let possession ←
    StoredKey.protect (master.derive KeyIndex.possession) locks.possession external
  let knowledge ← StoredKey.protect (master.derive KeyIndex.knowledge) knowledgeLock external
  let transport ← StoredKey.protect (master.derive KeyIndex.transport) locks.possession external
  return ⟨possession, knowledge, biometry, transport, salt.bytes⟩

/-- The record of a new activation. -/
def newRecord (h : Handshake) (external : Bool) (keys : FactorKeys) (devicePrivate : Bytes) :
    Record where
  activationId := h.activationId
  serverKey := h.serverKey.bytes
  deviceKey := h.pair.publicKey.bytes
  devicePrivate
  keys
  counter := .hashed h.counterData
  usesExternal := external
  blocked := false
  boundCode := h.boundCode
  confirmedCodes := []

/-- Store the keys and commit the activation. -/
def commit (keys : UnlockKeys) : Change Session Unit := do
  let s ← Change.object
  match s.stage with
  | .established h => do
    let locks ← locks keys
    let stored ← storeKeys h.master locks s.external
    let devicePrivate ←
      KeyWrap.wrap (h.master.derive KeyIndex.vault).bytes h.pair.privateBytes
    let record := newRecord h s.external.isSome stored devicePrivate
    Core.note (.committed record.activationId record.hasBiometry)
    enter (.activated record)
  | _ => Core.wrongState .notEstablished

/-! ## The end -/

/-- Remove the activation. -/
def remove : Change Session Unit := do
  match (← Change.object).stage with
  | .activated record => do
    Core.note (.removed record.activationId)
    enter .removed
  | .removed => pure ()
  | _ => Core.wrongState .nothingToRemove

/-- Forget any activation or pending step. -/
def reset : Change Session Unit := do
  let s ← Change.object
  enter .empty
  Core.note (.reset s.setup.identifier.toNat)

end Session

end DeviceAuth
