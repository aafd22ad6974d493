import DeviceAuth.Counter
import DeviceAuth.KeyWrap

/-!
# The record of an activation

What a device keeps once an activation is committed: identifiers and public keys in the clear, the
factor keys and the device's private key under locks. A stored key is wrapped under its lock key and,
if the record says so, once more under the external encryption key on the outside.

The record also remembers recovery codes that were confirmed, the latest sixteen of them, by digest.
The code that came with the activation is remembered apart and is never forgotten.
-/

set_option autoImplicit false

namespace DeviceAuth

/-- A key under a lock key, and perhaps under the external encryption key. -/
structure StoredKey where
  bytes : Bytes
deriving DecidableEq

namespace StoredKey

/-- Store a key. -/
def protect (key lock : SymmetricKey) (external : Option SymmetricKey) : Core StoredKey := do
  let inner ← KeyWrap.wrap lock.bytes key.bytes
  match external with
  | some outer => return ⟨← KeyWrap.wrap outer.bytes inner⟩
  | none => return ⟨inner⟩

/-- The wrapping without the external layer. -/
def inner (stored : StoredKey) : Option SymmetricKey → Except Reason Bytes
  | some outer => KeyWrap.reveal outer.bytes stored.bytes
  | none => .ok stored.bytes

/-- Reach a stored key. -/
def reveal (stored : StoredKey) (lock : SymmetricKey) (external : Option SymmetricKey) :
    Core SymmetricKey := do
  let wrapped ← (stored.inner external : Except Reason Bytes)
  KeyWrap.unwrapKey lock.bytes wrapped

end StoredKey

/-- The factor keys of an activation. -/
structure FactorKeys where
  possession : StoredKey
  knowledge : StoredKey
  biometry : Option StoredKey
  transport : StoredKey
  /-- The salt the password is stretched with. -/
  salt : Bytes
deriving DecidableEq

/-- A committed activation. -/
structure Record where
  activationId : String
  serverKey : Bytes
  deviceKey : Bytes
  /-- The device's private key, wrapped under the vault key. -/
  devicePrivate : Bytes
  keys : FactorKeys
  counter : Counter
  /-- Whether the factor keys are also under the external encryption key. -/
  usesExternal : Bool
  blocked : Bool
  /-- The digest of the recovery code that came with the activation. -/
  boundCode : Option (Octets 32)
  /-- The digests of the codes confirmed since, earliest first. -/
  confirmedCodes : List (Octets 32)
deriving DecidableEq

namespace Record

/-- How many confirmed codes are remembered. -/
def confirmedLimit : Nat := 16

/-- The protocol version of an activation. -/
def version (record : Record) : ProtocolVersion := record.counter.version

/-- Whether there is a biometry key. -/
def hasBiometry (record : Record) : Bool := record.keys.biometry.isSome

/-- Whether a code is known to be confirmed. -/
def knowsCode (record : Record) (digest : Octets 32) : Bool :=
  record.boundCode = some digest || record.confirmedCodes.contains digest

/-- The record with a code remembered; an old code makes room for a new one. -/
def rememberCode (record : Record) (digest : Octets 32) : Record :=
  if record.knowsCode digest then record
  else
    let kept := if confirmedLimit ≤ record.confirmedCodes.length then record.confirmedCodes.drop 1
      else record.confirmedCodes
    { record with confirmedCodes := kept ++ [digest] }

def describe (record : Record) : String :=
  Text.Description.record "ActivationRecord"
    [("activation_id", Text.quoted record.activationId),
     ("counter", record.counter.describe),
     ("uses_eek", Text.Description.bool record.usesExternal),
     ("blocked", Text.Description.bool record.blocked),
     ("has_biometry", Text.Description.bool record.hasBiometry)]

end Record

end DeviceAuth
