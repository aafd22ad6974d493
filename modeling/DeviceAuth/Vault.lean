import DeviceAuth.Session.Signing
import DeviceAuth.Session.Upkeep

/-!
# The vault

Some keys are out of reach even for an unlocked activation, until the server has agreed: those below
the vault key, and the device's private key that is wrapped under it. The device signs a request with
at least two factors, the server sends the vault key under the transport key, and with both the vault
is unlocked. From an unlocked vault keys are derived, data is signed with the device's key, and a
biometry factor is added after the fact.
-/

set_option autoImplicit false

namespace DeviceAuth

/-- A signed request for the vault key. -/
structure VaultAuthorization where
  signature : RequestSignature
deriving DecidableEq

/-- The factors a request was signed with. -/
def VaultAuthorization.factor (authorization : VaultAuthorization) : SignatureFactor :=
  authorization.signature.factor

/-- An unlocked vault. -/
structure Vault where
  activationId : String
  key : SymmetricKey
  pair : KeyPair

namespace Session

/-- Sign a request for the vault key. -/
def requestVault (request : Request) (keys : UnlockKeys) (factor : SignatureFactor) :
    Change Session VaultAuthorization := do
  let _ ← (← Change.object).activeRecord
  if factor.count < 2 then Core.wrongParameter .vaultFactors
  return ⟨← sign request keys factor⟩

end Session

namespace Vault

/-- The vault key in what the server sent. -/
def decryptKey (transport : SymmetricKey) (encrypted : String) : Except Reason SymmetricKey := do
  let bytes ← Text.Base64.decode encrypted
  let plain ← Cbc.decrypt transport (Octets.zero : Octets 16).bytes bytes .counted
  match Octets.ofBytes? plain with
  | some key => .ok key
  | none => .error .vaultKeySize

/-- Unlock the vault of a session's activation. -/
def unlock (s : Session) (authorization : VaultAuthorization) (keys : UnlockKeys)
    (encryptedKey : String) : Core Vault := do
  let record ← s.activeRecord
  if authorization.signature.activationId ≠ record.activationId then
    Core.wrongParameter .foreignAuthorization
  if authorization.factor.count < 2 then Core.wrongParameter .vaultFactors
  let _ ← s.unlockSignatureKeys record keys authorization.factor
  let transport ← s.unlockTransportKey record keys
  let key ← (decryptKey transport encryptedKey : Except Reason SymmetricKey)
  let privateBytes ← (KeyWrap.reveal key.bytes record.devicePrivate : Except Reason Bytes)
  let pair ← (KeyPair.ofBytes privateBytes : Except Reason KeyPair)
  Core.note (.vaultUnlocked record.activationId)
  return ⟨record.activationId, key, pair⟩

/-- The key of an index. -/
def derive (vault : Vault) (index : UInt64) : SymmetricKey := vault.key.derive index

/-- Unlock a vault for one key. -/
def deriveOnce (s : Session) (authorization : VaultAuthorization) (keys : UnlockKeys)
    (encryptedKey : String) (index : UInt64) : Core SymmetricKey := do
  return (← unlock s authorization keys encryptedKey).derive index

/-- Sign data with the device's key. -/
def sign (vault : Vault) (data : Bytes) : Bytes := Ecdsa.sign vault.pair data

/-- Add or replace the biometry key of a session: it is derived anew from the key exchange. -/
def addBiometry (vault : Vault) (keys : UnlockKeys) : Change Session Unit := do
  let record ← (← Change.object).activeRecord
  if record.activationId ≠ vault.activationId then Core.wrongParameter .foreignVault
  keys.validate
  let lock ← UnlockKeys.require .biometry keys.biometry
  let serverKey ← (PublicKey.ofBytes record.serverKey : Except Reason PublicKey)
  let master := Kdf.reduce (vault.pair.sharedSecret serverKey)
  Session.storeBiometry (master.derive KeyIndex.biometry) lock

def describe (vault : Vault) : String :=
  Text.Description.record "SecureVault"
    [("activation_id", Text.quoted vault.activationId), ("vault_key", Text.redacted)]

end Vault

end DeviceAuth
