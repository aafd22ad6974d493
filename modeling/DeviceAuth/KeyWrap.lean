import DeviceAuth.Core
import DeviceAuth.Kdf

/-!
# Wrapped keys

A key is kept under a lock key, as an initialisation vector, the key encrypted, and a tag over both.
`enclose` is the wrapping for a given vector and `reveal` its inverse: it checks the tag before it
decrypts, so what it accepts is exactly what `enclose` can have made.
-/

set_option autoImplicit false

namespace DeviceAuth.KeyWrap

/-- The keys that belong to a lock key. -/
def keys (lock : Bytes) : SealingKeys := SealingKeys.derive lock (Bytes.ofText "pa-key-wrap")

/-- Data under a lock key and an initialisation vector. -/
def enclose (lock : Bytes) (iv : Octets 16) (data : Bytes) : Bytes :=
  let k := keys lock
  let body := iv.bytes ++ Cbc.encryptFilled k.encryption iv data
  body ++ (hmac k.authentication.bytes body).bytes

/-- The data a lock key encloses in `wrapped`. -/
def reveal (lock wrapped : Bytes) : Except Reason Bytes :=
  if wrapped.length < 64 then .error .wrappedSize
  else
    let k := keys lock
    let body := wrapped.take (wrapped.length - 32)
    if (hmac k.authentication.bytes body).bytes.matching (wrapped.drop (wrapped.length - 32)) then
      Cbc.decrypt k.encryption (body.take 16) (body.drop 16) .counted
    else .error .wrappedTag

/-- Wrap data under a fresh initialisation vector. -/
def wrap (lock data : Bytes) : Core Bytes := do
  let iv ← Core.draw 16
  return enclose lock iv data

/-- Unwrap what must be a key. -/
def unwrapKey (lock wrapped : Bytes) : Core SymmetricKey := do
  let plain ← (reveal lock wrapped : Except Reason Bytes)
  match Octets.ofBytes? plain with
  | some key => return key
  | none => throw .encryption

end DeviceAuth.KeyWrap
