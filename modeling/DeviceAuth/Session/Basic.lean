import DeviceAuth.Code.Activation
import DeviceAuth.Record.Form
import DeviceAuth.Setup
import DeviceAuth.Text.Digits
import DeviceAuth.UnlockKeys

/-!
# Sessions

A session is one activation slot of an application. Its stage holds what is known so far: nothing,
the device's key pair, the outcome of the key exchange, or the record of the committed activation.
The phase that an application sees follows from the stage.

An operation that changes a session is a `Change Session`. Those that only look at one take it as an
argument and are operations of the core.
-/

set_option autoImplicit false

namespace DeviceAuth

/-! ## Recovery data -/

/-- A recovery code and the key that goes with it. -/
structure RecoveryData where
  code : String
  puk : String
deriving DecidableEq

namespace RecoveryData

/-- The attributes that identify a device by its recovery data, as JSON text. -/
def identity (data : RecoveryData) : String :=
  (Json.record [("puk", toJson data.puk), ("recoveryCode", toJson data.code)]).render

/-- The description of recovery data, whatever they are. -/
def describe (_ : RecoveryData) : String :=
  Text.Description.record "RecoveryData" [("recovery_code", Text.redacted), ("puk", Text.redacted)]

def layout : Json.Layout := ⟨["recoveryCode", "puk"], 2⟩

instance : JsonForm RecoveryData where
  toJson data := Json.record [("recoveryCode", toJson data.code), ("puk", toJson data.puk)]
  ofJson? value := do
    match ← layout.fields? value with
    | [code, puk] => return ⟨← Json.required? code, ← Json.required? puk⟩
    | _ => none

end RecoveryData

/-! ## Stages -/

/-- The outcome of a key exchange. -/
structure Handshake where
  pair : KeyPair
  activationId : String
  serverKey : PublicKey
  /-- The secret all keys of the activation are derived from. -/
  master : SymmetricKey
  counterData : Octets 16
  boundCode : Option (Octets 32)

/-- What a session holds. -/
inductive Stage where
  | empty
  /-- The device's key pair, and the data of a recovery activation. -/
  | begun (pair : KeyPair) (recovery : Option RecoveryData)
  | established (handshake : Handshake)
  | activated (record : Record)
  | removed

/-- The phase of a stage. -/
def Stage.phase : Stage → Phase
  | empty => .empty
  | begun _ _ => .pendingStep1
  | established _ => .pendingStep2
  | activated record => if record.blocked then .blocked else .active
  | removed => .removed

/-- An activation slot of an application. -/
structure Session where
  setup : Setup
  masterKey : PublicKey
  /-- The external encryption key. -/
  external : Option SymmetricKey
  stage : Stage

/-- Eight digits that the user compares on both sides of a key exchange. -/
def fingerprint (deviceKey : Bytes) (activationId : String) (serverKey : Bytes) : String :=
  let digits := Text.shortDigits (sha256 (deviceKey ++ Bytes.ofText activationId ++ serverKey))
  String.ofList (digits.take 4 ++ '-' :: digits.drop 4)

namespace Session

/-- A session without an activation. -/
def create (setup : Setup) : Core Session := do
  let keys ← setup.validate
  Core.note (.sessionOpened setup.identifier.toNat keys.external.isSome)
  return ⟨setup, keys.master, keys.external, .empty⟩

/-! ## What an application sees -/

/-- Where the session stands. -/
def phase (s : Session) : Phase := s.stage.phase

/-- The record of the committed activation. -/
def record? (s : Session) : Option Record :=
  match s.stage with
  | .activated record => some record
  | _ => none

/-- Whether there is a committed activation, blocked or not. -/
def hasActivation (s : Session) : Bool := s.record?.isSome

/-- The identifier of the activation, once the keys are exchanged. -/
def activationId? (s : Session) : Option String :=
  match s.stage with
  | .established handshake => some handshake.activationId
  | .activated record => some record.activationId
  | _ => none

/-- The fingerprint of the key exchange, once it is done. -/
def fingerprint? (s : Session) : Option String :=
  match s.stage with
  | .established h => some (fingerprint h.pair.publicKey.bytes h.activationId h.serverKey.bytes)
  | .activated r => some (fingerprint r.deviceKey r.activationId r.serverKey)
  | _ => none

/-- The protocol of the committed activation. -/
def version? (s : Session) : Option ProtocolVersion := s.record?.map Record.version

/-- Whether the committed activation has a biometry key. -/
def hasBiometry (s : Session) : Bool := (s.record?.map Record.hasBiometry).getD false

def describe (s : Session) : String :=
  Text.Description.record "Session"
    [("session_identifier", toString s.setup.identifier.toNat),
     ("state", Named.name s.phase),
     ("activation_id", Text.Description.option Text.quoted s.activationId?)]

/-! ## What an operation needs -/

/-- The record of an activation that can be used. -/
def activeRecord (s : Session) : Except Failure Record :=
  match s.stage with
  | .activated record =>
    if record.blocked then .error (.wrongState .blocked) else .ok record
  | _ => .error (.wrongState .notActive)

/-- The record of a committed activation, blocked or not. -/
def committedRecord (s : Session) : Except Failure Record :=
  match s.stage with
  | .activated record => .ok record
  | _ => .error (.wrongState .notCommitted)

/-- The external encryption key, as far as the record uses one. -/
def externalFor (s : Session) (record : Record) : Except Failure (Option SymmetricKey) :=
  if record.usesExternal then
    match s.external with
    | some key => .ok (some key)
    | none => .error (.wrongState .externalKeyMissing)
  else .ok none

/-- The lock of the biometry key, and the key under it. -/
def biometryLock (record : Record) (keys : UnlockKeys) :
    Except Failure (SymmetricKey × StoredKey) := do
  let lock ← UnlockKeys.require .biometry keys.biometry
  match record.keys.biometry with
  | some stored => return (lock, stored)
  | none => throw (.wrongState .noBiometry)

/-- The knowledge key behind a password. -/
def unlockKnowledge (record : Record) (external : Option SymmetricKey) (password : Password) :
    Core SymmetricKey := do
  let lock ← Kdf.passwordLock password.bytes record.keys.salt
  record.keys.knowledge.reveal lock external

/-- The signature keys of a combination of factors, in the order possession, knowledge, biometry. All
arguments are checked before any key is tried. -/
def unlockSignatureKeys (s : Session) (record : Record) (keys : UnlockKeys)
    (factor : SignatureFactor) : Core (List SymmetricKey) := do
  keys.validate
  let possessionLock ← UnlockKeys.require .possession keys.possession
  let password ← if factor.usesKnowledge then some <$> keys.requirePassword else pure none
  let biometry ← if factor.usesBiometry then some <$> biometryLock record keys else pure none
  let external ← s.externalFor record
  let possession ← record.keys.possession.reveal possessionLock external
  let knowledge ← match password with
    | some password => do pure [← unlockKnowledge record external password]
    | none => pure []
  let biometry ← match biometry with
    | some (lock, stored) => do pure [← stored.reveal lock external]
    | none => pure []
  return possession :: knowledge ++ biometry

/-- The transport key. -/
def unlockTransportKey (s : Session) (record : Record) (keys : UnlockKeys) :
    Core SymmetricKey := do
  keys.validate
  let lock ← UnlockKeys.require .possession keys.possession
  let external ← s.externalFor record
  record.keys.transport.reveal lock external

/-! ## Changes -/

/-- Put the session into another stage. -/
def enter (stage : Stage) : Change Session Unit := do
  let s ← Change.object
  Change.become { s with stage }

/-- Put another record in the place of the active one. -/
def setRecord (record : Record) : Change Session Unit := enter (.activated record)

end Session

end DeviceAuth
