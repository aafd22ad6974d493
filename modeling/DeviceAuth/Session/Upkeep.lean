import DeviceAuth.Envelope
import DeviceAuth.Session.Basic
import DeviceAuth.Status

/-!
# Keeping an activation

What happens to a committed activation apart from signing: its status is fetched and applied, a
version 2 counter is upgraded, the state is stored and restored, factors are changed, and data of the
server is verified or messages to it are sealed.
-/

set_option autoImplicit false

namespace DeviceAuth

/-- What an upgrade of the protocol may bring along. -/
structure UpgradeData where
  /-- The first version 3 counter, in Base64. -/
  counterData : Option String
deriving DecidableEq

namespace UpgradeData

def describe (data : UpgradeData) : String :=
  Text.Description.record "ProtocolUpgradeData"
    [("ctr_data", Text.Description.option Text.quoted data.counterData)]

def layout : Json.Layout := ⟨["ctrData"], 0⟩

instance : JsonForm UpgradeData where
  toJson data := Json.record [("ctrData", toJson data.counterData)]
  ofJson? value := do
    match ← layout.fields? value with
    | [counterData] => return ⟨← Json.given? none counterData⟩
    | _ => none

end UpgradeData

/-- Which of the server's keys signed some data. -/
inductive ServerKey where
  | master
  | personalized
deriving DecidableEq, Repr

namespace ServerKey

instance : Named ServerKey where
  all := [master, personalized]
  name
    | master => "MasterServer"
    | personalized => "PersonalizedServer"

instance : JsonForm ServerKey := ⟨fun k => Json.ofText (Named.name k), Json.named?⟩

end ServerKey

/-- Data the server signed. -/
structure SignedData where
  data : Bytes
  signature : Bytes
  key : ServerKey
deriving DecidableEq

namespace Session

/-! ## Status -/

/-- Decode the status of the committed activation. A hash-based counter is compared with the
server's. -/
def decodeStatus (s : Session) (encrypted : EncryptedStatus) (keys : UnlockKeys) :
    Core Status := do
  let record ← s.committedRecord
  let transport ← s.unlockTransportKey record keys
  let status ← (Status.decode encrypted transport : Except Reason Status)
  match record.counter with
  | .linear _ => return status
  | .hashed data =>
    let own := Kdf.keyedFold transport data.bytes
    return { status with signatureRecommended := own ≠ status.counterDigest }

/-- Take over how the server sees the activation. -/
def applyStatus (status : Status) : Change Session Unit := do
  match (← Change.object).stage with
  | .activated record =>
    match status.state with
    | .active => do
      if record.blocked then Core.note (.unblocked record.activationId)
      setRecord { record with blocked := false }
    | .blocked => do
      unless record.blocked do Core.note (.blocked record.activationId)
      setRecord { record with blocked := true }
    | .removed => do
      Core.note (.removedOnServer record.activationId)
      enter .removed
    | .created => Core.wrongState .serverUncommitted
    | .pendingCommit => Core.wrongState .serverUncommitted
  | _ => Core.wrongState .notCommitted

/-! ## Protocol -/

/-- The version 3 counter of an upgrade. -/
def upgradedCounter (counter : Counter) : Option String → Except Reason Counter
  | none => .ok counter.upgraded
  | some text => (Text.Base64.decodeOctets 16 text).map .hashed

/-- Move a version 2 activation to version 3. -/
def upgrade (data : UpgradeData) : Change Session Unit := do
  let record ← (← Change.object).activeRecord
  if record.version ≠ .v2 then Core.wrongState .latestProtocol
  let counter ← (upgradedCounter record.counter data.counterData : Except Reason Counter)
  setRecord { record with counter }
  Core.note (.upgraded record.activationId)

/-! ## Storage -/

/-- What is stored of a session: a pending activation is not. -/
def stored (s : Session) : Stored :=
  match s.stage with
  | .activated record => .activated record
  | .removed => .removed
  | _ => .empty

/-- The octets a session is stored as. -/
def serialize (s : Session) : Bytes := s.stored.encode

/-- The stage of a stored state. -/
def stageOf : Stored → Stage
  | .empty => .empty
  | .activated record => .activated record
  | .removed => .removed

/-- Restore a stored state. -/
def deserialize (bytes : Bytes) : Change Session Unit := do
  let state ← (Stored.decode bytes : Except Reason Stored)
  enter (stageOf state)
  Core.note (.restored (stageOf state).phase)

/-! ## Factors -/

/-- Put the knowledge key under a new password. -/
def changePassword (old new : Password) : Change Session Unit := do
  let s ← Change.object
  let record ← s.activeRecord
  unless new.isAcceptable do Core.wrongParameter .newPasswordTooShort
  let external ← s.externalFor record
  let knowledge ← unlockKnowledge record external old
  let salt ← Core.draw 16
  let lock ← Kdf.passwordLock new.bytes salt.bytes
  let stored ← StoredKey.protect knowledge lock external
  setRecord
    { record with keys := { record.keys with knowledge := stored, salt := salt.bytes } }
  Core.note (.passwordChanged record.activationId)

/-- Forget the biometry key. -/
def removeBiometry : Change Session Unit := do
  let record ← (← Change.object).activeRecord
  setRecord { record with keys := { record.keys with biometry := none } }
  if record.hasBiometry then Core.note (.biometryRemoved record.activationId)

/-- Store a biometry key. -/
def storeBiometry (key lock : SymmetricKey) : Change Session Unit := do
  let s ← Change.object
  let record ← s.activeRecord
  let external ← s.externalFor record
  let stored ← StoredKey.protect key lock external
  setRecord { record with keys := { record.keys with biometry := some stored } }
  Core.note (.biometryAdded record.activationId)

/-! ## The server -/

/-- Verify data that one of the server's keys signed. -/
def verifySigned (s : Session) (signed : SignedData) : Core Unit := do
  let key ← match signed.key with
    | .master => pure s.masterKey
    | .personalized => do
      let record ← s.activeRecord
      (PublicKey.ofBytes record.serverKey : Except Reason PublicKey)
  unless ← Ecdsa.verify key signed.data signed.signature do Core.refuse .serverSignature

/-- An encryptor for messages of the application, or of the activation. -/
def encryptor (s : Session) (scope : Scope) (keys : UnlockKeys) (info1 : Bytes) :
    Core Encryptor := do
  let secret := Bytes.ofText s.setup.applicationSecret
  match scope with
  | .application => return { publicKey := s.masterKey.bytes, info1, info2 := (sha256 secret).bytes }
  | .activation => do
    let record ← s.activeRecord
    let transport ← s.unlockTransportKey record keys
    let info2 := hmac transport.bytes (secret ++ Bytes.ofText record.activationId)
    return { publicKey := record.serverKey, info1, info2 := info2.bytes }

end Session

end DeviceAuth
