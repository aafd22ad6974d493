import DeviceAuth.Binary
import DeviceAuth.Record.Basic

/-!
# Written records

A record is stored in a binary form, as part of the state of a session, and has a JSON form for
inspection. Both write the fields in the order of the type.

The stored state begins with the number of its format. A state of another format is refused, but only
after it has been read as this one: what cannot be read at all is not of any known format.
-/

set_option autoImplicit false

namespace DeviceAuth

open Binary BinaryForm

/-! ## Binary form -/

instance : BinaryForm Counter where
  write
    | .linear value => writeChoice 0 ++ write value
    | .hashed data => writeChoice 1 ++ write data
  read bytes := do
    let (choice, rest) ← readChoice bytes
    match choice with
    | 0 => do
      let (value, rest) ← read rest
      return (.linear value, rest)
    | 1 => do
      let (data, rest) ← read rest
      return (.hashed data, rest)
    | _ => none

instance : BinaryForm StoredKey where
  write stored := write stored.bytes
  read bytes := do
    let (octets, rest) ← read bytes
    return (⟨octets⟩, rest)

instance : BinaryForm FactorKeys where
  write keys := write keys.possession ++ write keys.knowledge ++ write keys.biometry
    ++ write keys.transport ++ write keys.salt
  read bytes := do
    let (possession, bytes) ← read bytes
    let (knowledge, bytes) ← read bytes
    let (biometry, bytes) ← read bytes
    let (transport, bytes) ← read bytes
    let (salt, bytes) ← read bytes
    return (⟨possession, knowledge, biometry, transport, salt⟩, bytes)

instance : BinaryForm Record where
  write record := write record.activationId ++ write record.serverKey ++ write record.deviceKey
    ++ write record.devicePrivate ++ write record.keys ++ write record.counter
    ++ write record.usesExternal ++ write record.blocked ++ write record.boundCode
    ++ write record.confirmedCodes
  read bytes := do
    let (activationId, bytes) ← read bytes
    let (serverKey, bytes) ← read bytes
    let (deviceKey, bytes) ← read bytes
    let (devicePrivate, bytes) ← read bytes
    let (keys, bytes) ← read bytes
    let (counter, bytes) ← read bytes
    let (usesExternal, bytes) ← read bytes
    let (blocked, bytes) ← read bytes
    let (boundCode, bytes) ← read bytes
    let (confirmedCodes, bytes) ← read bytes
    return (⟨activationId, serverKey, deviceKey, devicePrivate, keys, counter, usesExternal, blocked,
      boundCode, confirmedCodes⟩, bytes)

/-- What is stored of a session. -/
inductive Stored where
  | empty
  | activated (record : Record)
  | removed
deriving DecidableEq

instance : BinaryForm Stored where
  write
    | .empty => writeChoice 0
    | .activated record => writeChoice 1 ++ write record
    | .removed => writeChoice 2
  read bytes := do
    let (choice, rest) ← readChoice bytes
    match choice with
    | 0 => some (.empty, rest)
    | 1 => do
      let (record, rest) ← read rest
      return (.activated record, rest)
    | 2 => some (.removed, rest)
    | _ => none

namespace Stored

/-- The format that is written. -/
def format : UInt8 := 1

/-- The octets of a stored state. -/
def encode (stored : Stored) : Bytes := write format ++ write stored

/-- The stored state at the front of some octets; whatever follows it is not looked at. -/
def decode (bytes : Bytes) : Except Reason Stored :=
  let found : Option (UInt8 × Stored) := do
    let (number, bytes) ← read bytes
    let (stored, _) ← read bytes
    return (number, stored)
  match found with
  | none => .error .persistedState
  | some (number, stored) =>
    if number = format then .ok stored else .error (.persistedFormat number.toNat)

end Stored

/-! ## JSON form -/

instance : JsonForm StoredKey where
  toJson stored := toJson stored.bytes
  ofJson? value := (ofJson? value).map StoredKey.mk

/-- The layout of the JSON form of factor keys. -/
def FactorKeys.layout : Json.Layout :=
  ⟨["possession", "knowledge", "biometry", "transport", "password_salt"], 5⟩

instance : JsonForm FactorKeys where
  toJson keys := Json.record
    [("possession", toJson keys.possession), ("knowledge", toJson keys.knowledge),
     ("biometry", toJson keys.biometry), ("transport", toJson keys.transport),
     ("password_salt", toJson keys.salt)]
  ofJson? value := do
    match ← FactorKeys.layout.fields? value with
    | [possession, knowledge, biometry, transport, salt] =>
      return ⟨← Json.required? possession, ← Json.required? knowledge, ← Json.given? none biometry,
        ← Json.required? transport, ← Json.required? salt⟩
    | _ => none

/-- The layout of the JSON form of a record. -/
def Record.layout : Json.Layout :=
  ⟨["activation_id", "server_public_key", "device_public_key", "device_private_key", "keys",
    "counter", "uses_eek", "blocked", "bound_recovery_code_digest",
    "confirmed_recovery_code_digests"], 10⟩

instance : JsonForm Record where
  toJson record := Json.record
    [("activation_id", toJson record.activationId),
     ("server_public_key", toJson record.serverKey),
     ("device_public_key", toJson record.deviceKey),
     ("device_private_key", toJson record.devicePrivate),
     ("keys", toJson record.keys),
     ("counter", toJson record.counter),
     ("uses_eek", toJson record.usesExternal),
     ("blocked", toJson record.blocked),
     ("bound_recovery_code_digest", toJson record.boundCode),
     ("confirmed_recovery_code_digests", toJson record.confirmedCodes)]
  ofJson? value := do
    match ← Record.layout.fields? value with
    | [activationId, serverKey, deviceKey, devicePrivate, keys, counter, usesExternal, blocked,
        boundCode, confirmedCodes] =>
      return ⟨← Json.required? activationId, ← Json.required? serverKey, ← Json.required? deviceKey,
        ← Json.required? devicePrivate, ← Json.required? keys, ← Json.required? counter,
        ← Json.required? usesExternal, ← Json.required? blocked, ← Json.given? none boundCode,
        ← Json.required? confirmedCodes⟩
    | _ => none

end DeviceAuth
