import DeviceAuth.Core
import DeviceAuth.Json.Form
import DeviceAuth.Kdf
import DeviceAuth.Text.Decoded

/-!
# Status of an activation

The server reports how it sees an activation in a blob of 32 octets, encrypted under the transport
key. The initialisation vector is derived from a challenge of the device and a nonce of the server,
so that an old answer does not pass for a new one.
-/

set_option autoImplicit false

namespace DeviceAuth

/-- How the server sees an activation. -/
inductive ServerState where
  | created
  | pendingCommit
  | active
  | blocked
  | removed
deriving DecidableEq, Repr

namespace ServerState

instance : Named ServerState where
  all := [created, pendingCommit, active, blocked, removed]
  name
    | created => "Created"
    | pendingCommit => "PendingCommit"
    | active => "Active"
    | blocked => "Blocked"
    | removed => "Removed"

instance : JsonForm ServerState := ⟨fun s => Json.ofText (Named.name s), Json.named?⟩

/-- The octet of a state in the blob. -/
def octet : ServerState → UInt8
  | created => 1
  | pendingCommit => 2
  | active => 3
  | blocked => 4
  | removed => 5

/-- The state with this octet. -/
def ofOctet? (b : UInt8) : Option ServerState :=
  (Named.all : List ServerState).find? fun s => s.octet = b

end ServerState

/-- A status as it is received. -/
structure EncryptedStatus where
  challenge : String
  blob : String
  nonce : String
deriving DecidableEq

namespace EncryptedStatus

def describe (status : EncryptedStatus) : String :=
  Text.Description.record "EncryptedActivationStatus"
    [("challenge", Text.quoted status.challenge),
     ("encrypted_status_blob", Text.quoted status.blob), ("nonce", Text.quoted status.nonce)]

def layout : Json.Layout := ⟨["challenge", "encryptedStatusBlob", "nonce"], 3⟩

instance : JsonForm EncryptedStatus where
  toJson status := Json.record
    [("challenge", toJson status.challenge), ("encryptedStatusBlob", toJson status.blob),
     ("nonce", toJson status.nonce)]
  ofJson? value := do
    match ← layout.fields? value with
    | [challenge, blob, nonce] =>
      return ⟨← Json.required? challenge, ← Json.required? blob, ← Json.required? nonce⟩
    | _ => none

end EncryptedStatus

/-- A decoded status. -/
structure Status where
  state : ServerState
  /-- The protocol the server uses now. -/
  currentVersion : UInt8
  /-- The protocol the activation can be upgraded to. -/
  upgradeVersion : UInt8
  failCount : UInt32
  maxFailCount : UInt32
  /-- The low octet of the server's counter. -/
  counterOctet : UInt8
  /-- How far the server looks ahead for a counter. -/
  lookAhead : UInt8
  /-- The digest of the server's counter. -/
  counterDigest : Octets 16
  /-- Whether the device's counter is out of step, so that a signature would help. -/
  signatureRecommended : Bool
deriving DecidableEq

namespace Status

/-- Octets of a blob. -/
def blobSize : Nat := 32

/-- What every blob begins with. -/
def magic : Bytes := [0xde, 0xc0, 0xde, 0xd1]

/-- The status in a decrypted blob. -/
def parse (plain : Bytes) : Except Reason Status :=
  let octet := fun i => plain.getD i 0
  if plain.length ≠ blobSize ∨ plain.take 4 ≠ magic then .error .statusMagic
  else
    match ServerState.ofOctet? (octet 4) with
    | none => .error (.statusState (octet 4).toNat)
    | some state =>
      .ok {
        state
        currentVersion := octet 5
        upgradeVersion := octet 6
        failCount := (octet 13).toUInt32
        maxFailCount := (octet 14).toUInt32
        counterOctet := octet 12
        lookAhead := octet 15
        counterDigest := Octets.fitted (plain.drop 16)
        signatureRecommended := false }

/-- The initialisation vector of a blob. -/
def vector (transport : SymmetricKey) (challenge nonce : Octets 16) : Octets 16 :=
  Kdf.keyedFold transport (challenge.bytes ++ nonce.bytes)

/-- The status a blob encrypts under the transport key. -/
def decode (encrypted : EncryptedStatus) (transport : SymmetricKey) : Except Reason Status := do
  let challenge ← Text.Base64.decodeOctets 16 encrypted.challenge
  let nonce ← Text.Base64.decodeOctets 16 encrypted.nonce
  let blob ← Text.Base64.decodeOctets blobSize encrypted.blob
  parse (← Cbc.decrypt transport (vector transport challenge nonce).bytes blob.bytes .whole)

/-- Attempts that are left before the activation is blocked. -/
def remainingAttempts (status : Status) : Nat :=
  if status.state = .active then status.maxFailCount.toNat - status.failCount.toNat else 0

/-- Whether the server offers a protocol that is known here. -/
def isUpgradeAvailable (status : Status) : Bool :=
  status.state = .active && status.currentVersion < status.upgradeVersion
    && status.upgradeVersion.toNat ≤ ProtocolVersion.latest.major

end Status

end DeviceAuth
