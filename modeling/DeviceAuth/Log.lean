import DeviceAuth.Protocol.Factor
import DeviceAuth.Session.Phase
import DeviceAuth.Text.Terminal

/-!
# The log

Two kinds of event are logged: changes of an activation, and the reason behind a cryptographic
failure, which the failure itself does not name. Nothing secret is ever part of an event.

A reason that comes from a decoder is logged under the decoder's name alone: which octet or field it
stumbled over is not recorded. The names of activations and tokens come from outside, so a line is
written as a terminal may show it.
-/

set_option autoImplicit false

namespace DeviceAuth

/-- How much is logged, each level including the ones before it. -/
inductive Verbosity where
  | off
  | error
  | warn
  | info
  | debug
deriving DecidableEq, Repr

namespace Verbosity

instance : Named Verbosity where
  all := [off, error, warn, info, debug]
  name
    | off => "Off"
    | error => "Error"
    | warn => "Warn"
    | info => "Info"
    | debug => "Debug"

/-- The place of a level in their order. -/
def rank : Verbosity → Nat
  | off => 0
  | error => 1
  | warn => 2
  | info => 3
  | debug => 4

/-- The filter directive that selects a level. -/
def directive : Verbosity → String
  | off => "powerauth_core=off"
  | error => "powerauth_core=error"
  | warn => "powerauth_core=warn"
  | info => "powerauth_core=info"
  | debug => "powerauth_core=debug"

/-- Whether anything is logged at all. -/
def isActive (v : Verbosity) : Bool := v ≠ off

def describeGuard (v : Verbosity) : String :=
  Text.Description.record "LoggingGuard" [("active", Text.Description.bool v.isActive)]

end Verbosity

/-- Why something cryptographic went wrong. -/
inductive Reason where
  | base64
  | base64Size (actual expected : Nat)
  | base32
  | persistedState
  | json
  | vectorSize
  | plaintextSize
  | ciphertextSize
  | padding
  | wrappedSize
  | wrappedTag
  | privateKeySize (size : Nat)
  | privateKeyScalar
  | publicKeyPoint
  | signatureEncoding
  | codeSignature
  | statusMagic
  | statusState (octet : Nat)
  | persistedFormat (octet : Nat)
  | serverSignature
  | vaultKeySize
  | envelopeSize
  | envelopeTag
  | envelopeKey
deriving DecidableEq, Repr

/-- The wording of a reason. -/
def Reason.message : Reason → String
  | base64 => "Base64 decoding failed: "
  | base64Size actual expected =>
    "Base64 value has " ++ toString actual ++ " bytes, expected " ++ toString expected
  | base32 => "Base32 decoding failed: "
  | persistedState => "State decoding failed: "
  | json => "JSON decoding failed: "
  | vectorSize => "Invalid AES-CBC IV: "
  | plaintextSize => "Unpadded AES-CBC input is not block aligned"
  | ciphertextSize => "AES-CBC ciphertext is not block aligned"
  | padding => "AES-CBC padding check failed"
  | wrappedSize => "Wrapped key is too short"
  | wrappedTag => "Wrapped key tag mismatch"
  | privateKeySize size => "Private key has " ++ toString size ++ " bytes"
  | privateKeyScalar => "Private key is not a valid P-256 scalar"
  | publicKeyPoint => "Public key is not a valid P-256 point"
  | signatureEncoding => "Signature is not valid DER"
  | codeSignature => "Activation code signature does not match"
  | statusMagic => "Status blob has wrong size or magic"
  | statusState octet => "Status blob has unknown state " ++ toString octet
  | persistedFormat octet => "Unknown persisted format " ++ toString octet
  | serverSignature => "Server signature does not verify"
  | vaultKeySize => "Decrypted vault key has wrong size"
  | envelopeSize => "ECIES body too short"
  | envelopeTag => "ECIES MAC mismatch"
  | envelopeKey => "ECIES request without ephemeral key"

/-- Something worth logging. -/
inductive Event where
  | failed (why : Reason)
  | sessionOpened (identifier : Nat) (externalKey : Bool)
  | sessionCreated (identifier : Nat)
  | creationFailed (failure : Failure)
  | started
  | completingRecovery
  | established (activation : String)
  | committed (activation : String) (biometry : Bool)
  | removed (activation : String)
  | reset (identifier : Nat)
  | unblocked (activation : String)
  | blocked (activation : String)
  | removedOnServer (activation : String)
  | upgraded (activation : String)
  | restored (phase : Phase)
  | passwordChanged (activation : String)
  | biometryRemoved (activation : String)
  | biometryAdded (activation : String)
  | signed (factor : SignatureFactor)
  | recoveryConfirmed (activation : String)
  | vaultUnlocked (activation : String)
  | tokenStored (name : String)
  | tokenRemoved (name : String)
deriving DecidableEq, Repr

namespace Event

/-- The level an event is logged at: changes of an activation are news, the rest is for debugging. -/
def level : Event → Verbosity
  | sessionCreated _ | started | established _ | committed _ _ | removed _ | reset _ | unblocked _
  | blocked _ | removedOnServer _ | upgraded _ | passwordChanged _ | biometryRemoved _
  | biometryAdded _ | recoveryConfirmed _ => .info
  | failed _ | sessionOpened _ _ | creationFailed _ | completingRecovery | restored _ | signed _
  | vaultUnlocked _ | tokenStored _ | tokenRemoved _ => .debug

/-- The wording of an event. -/
def message : Event → String
  | failed why => why.message
  | sessionOpened identifier externalKey =>
    "Session " ++ toString identifier ++ " created (eek: "
      ++ Text.Description.bool externalKey ++ ")"
  | sessionCreated identifier => "Session " ++ toString identifier ++ " created"
  | creationFailed failure => "Session creation failed: " ++ failure.message
  | started => "Activation started"
  | completingRecovery => "Completing recovery activation"
  | established activation => "Activation " ++ activation ++ " established"
  | committed activation biometry =>
    "Activation " ++ activation ++ " committed (biometry: "
      ++ Text.Description.bool biometry ++ ")"
  | removed activation => "Activation " ++ activation ++ " removed"
  | reset identifier => "Session " ++ toString identifier ++ " reset"
  | unblocked activation => "Activation " ++ activation ++ " unblocked"
  | blocked activation => "Activation " ++ activation ++ " blocked"
  | removedOnServer activation => "Activation " ++ activation ++ " removed on the server"
  | upgraded activation => "Activation " ++ activation ++ " upgraded to protocol V3"
  | restored phase => "Session state restored as " ++ Named.name phase
  | passwordChanged activation => "Password changed for activation " ++ activation
  | biometryRemoved activation => "Biometry factor removed from " ++ activation
  | biometryAdded activation => "Biometry factor added to " ++ activation
  | signed factor => "Request signed with " ++ factor.header
  | recoveryConfirmed activation => "Recovery code confirmed for " ++ activation
  | vaultUnlocked activation => "Vault unlocked for " ++ activation
  | tokenStored name => "Storing token '" ++ name ++ "'"
  | tokenRemoved name => "Token '" ++ name ++ "' removed"

/-- Whether a log of this level shows the event. -/
def isShownAt (event : Event) (v : Verbosity) : Bool := event.level.rank ≤ v.rank

/-- The line an event is logged as. -/
def line (event : Event) : String :=
  (if event.level = .info then "INFO " else "DEBUG ") ++ Text.forTerminal event.message

end Event

end DeviceAuth
