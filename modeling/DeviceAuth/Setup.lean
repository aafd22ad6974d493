import DeviceAuth.Curve.Key
import DeviceAuth.Json.Form
import DeviceAuth.Kdf
import DeviceAuth.Text.Decoded

/-!
# Setup of a session

What an application fixes before any activation: its key and secret, the server's master key, and
perhaps a key of its own, the external encryption key, that every stored key is wrapped under once
more. All that can be wrong with a setup is a mistake of the application, so no fault of it is
cryptographic, not even a master key that is no point of the curve.
-/

set_option autoImplicit false

namespace DeviceAuth

/-- The constants of an application. -/
structure Setup where
  applicationKey : String
  applicationSecret : String
  /-- The server's master public key, in Base64. -/
  masterKey : String
  /-- A number of the application's choice, never interpreted. -/
  identifier : UInt32
  /-- The octets of the external encryption key. -/
  externalKey : Option Bytes
deriving DecidableEq

/-- The keys of a setup, decoded. -/
structure SetupKeys where
  master : PublicKey
  external : Option SymmetricKey

namespace Setup

/-- Octets of the external encryption key. -/
def externalKeySize : Nat := 16

/-- The external encryption key of a setup, which must be a key and not all zeros. -/
def decodeExternal : Option Bytes → Except Failure (Option SymmetricKey)
  | none => .ok none
  | some bytes =>
    match Octets.ofBytes? bytes with
    | none => .error (.wrongParameter .externalKeySize)
    | some key =>
      if key.isZero then .error (.wrongParameter .externalKeyZero) else .ok (some key)

/-- The master key of a setup. -/
def decodeMaster (text : String) : Core PublicKey :=
  match Text.Base64.decode text with
  | .error why => do
    Core.note (.failed why)
    Core.wrongParameter .masterKeyEncoding
  | .ok bytes =>
    match PublicKey.ofBytes bytes with
    | .error why => do
      Core.note (.failed why)
      Core.wrongParameter .masterKeyPoint
    | .ok key => pure key

/-- The keys of a setup, if nothing is wrong with it. -/
def validate (setup : Setup) : Core SetupKeys := do
  if setup.applicationKey.isEmpty || setup.applicationSecret.isEmpty then
    Core.wrongParameter .applicationMissing
  let master ← decodeMaster setup.masterKey
  let external ← decodeExternal setup.externalKey
  return ⟨master, external⟩

def describe (setup : Setup) : String :=
  Text.Description.record "SessionSetup"
    [("application_key", Text.quoted setup.applicationKey),
     ("application_secret", Text.redacted),
     ("master_server_public_key", Text.quoted setup.masterKey),
     ("session_identifier", toString setup.identifier.toNat),
     ("external_encryption_key",
      Text.Description.option (fun _ => Text.redacted) setup.externalKey)]

def layout : Json.Layout :=
  ⟨["application_key", "application_secret", "master_server_public_key", "session_identifier",
    "external_encryption_key"], 3⟩

instance : JsonForm Setup where
  toJson setup := Json.record
    [("application_key", toJson setup.applicationKey),
     ("application_secret", toJson setup.applicationSecret),
     ("master_server_public_key", toJson setup.masterKey),
     ("session_identifier", toJson setup.identifier),
     ("external_encryption_key", toJson setup.externalKey)]
  ofJson? value := do
    match ← layout.fields? value with
    | [key, secret, master, identifier, external] =>
      return ⟨← Json.required? key, ← Json.required? secret, ← Json.required? master,
        ← Json.given? 0 identifier, ← Json.given? none external⟩
    | _ => none

end Setup

/-- How the library as a whole is configured. -/
structure Configuration where
  verbosity : Verbosity
deriving DecidableEq, Repr

namespace Configuration

def describe (configuration : Configuration) : String :=
  Text.Description.record "CoreConfig" [("verbosity", Named.name configuration.verbosity)]

def layout : Json.Layout := ⟨["verbosity"], 0⟩

instance : JsonForm Configuration where
  toJson configuration := Json.record [("verbosity", toJson configuration.verbosity)]
  ofJson? value := do
    match ← layout.fields? value with
    | [verbosity] => return ⟨← Json.given? .off verbosity⟩
    | _ => none

end Configuration

end DeviceAuth
