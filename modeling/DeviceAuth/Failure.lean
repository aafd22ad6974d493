import DeviceAuth.Protocol.Version
import DeviceAuth.Text.Description

/-!
# Failures

An operation fails in one of three ways. It was asked for in a state that does not allow it, or
with an argument that cannot be right: both are mistakes of the integrating application, and the
failure names its cause. Or something cryptographic went wrong: a key, a tag, a signature, an
encoding. That last kind names no cause, so that whoever causes it learns nothing from it; the cause
goes to the log alone.

The wording of every cause is in one place, `StateFault.message` and `ParameterFault.message`.
-/

set_option autoImplicit false

namespace DeviceAuth

/-- The two factors whose keys an application hands over as bytes. -/
inductive KeyRole where
  | possession
  | biometry
deriving DecidableEq, Repr

/-- The role as a message names it. -/
def KeyRole.label : KeyRole → String
  | .possession => "possession"
  | .biometry => "biometry"

/-- Why a state does not allow an operation. -/
inductive StateFault where
  | alreadyActivated
  | notBegun
  | notEstablished
  | nothingToRemove
  | notCommitted
  | notActive
  | blocked
  | serverUncommitted
  | latestProtocol
  | externalKeyMissing
  | noBiometry
  | counterExhausted
  | counterVersion (counter wanted : ProtocolVersion)
  | nothingEncrypted
  | nothingDecrypted
  | storeGone
  | storeUnavailable
  | tokenInvalid
  | noActivation
  | stated (text : String)
deriving DecidableEq, Repr

/-- Why an argument cannot be right. -/
inductive ParameterFault where
  | keySize
  | applicationMissing
  | masterKeyEncoding
  | masterKeyPoint
  | externalKeySize
  | externalKeyZero
  | unlockDataEmpty
  | saltTooShort
  | codeSignatureEncoding
  | activationCode
  | recoveryCode
  | recoveryPuk
  | typedCharacter (c : Char)
  | factors (bits : Nat)
  | activationIdEmpty
  | serverRecovery
  | passwordMissing
  | passwordTooShort
  | newPasswordTooShort
  | unlockKeyMissing (role : KeyRole)
  | unlockKeySize (role : KeyRole)
  | unlockKeyZero (role : KeyRole)
  | method (name : String)
  | uriEmpty
  | nonceShape
  | unexpectedNonce
  | nonceMissing
  | factorKeyCount
  | vaultFactors
  | foreignAuthorization
  | foreignVault
  | recoveryFactors
  | ephemeralKeyMissing
  | tokenIncomplete
  | setupEncoding
  | stated (text : String)
deriving DecidableEq, Repr

/-- How an operation failed. -/
inductive Failure where
  | encryption
  | wrongState (why : StateFault)
  | wrongParameter (why : ParameterFault)
deriving DecidableEq, Repr

/-- The wording of a state that does not allow an operation. -/
def StateFault.message : StateFault → String
  | alreadyActivated => "Session already has an activation"
  | notBegun => "Activation step 1 was not started"
  | notEstablished => "Activation is not waiting for commit"
  | nothingToRemove => "No activation to remove"
  | notCommitted => "No committed activation"
  | notActive => "No active activation"
  | blocked => "Activation is blocked"
  | serverUncommitted => "Server reports an uncommitted activation"
  | latestProtocol => "Activation already uses the latest protocol"
  | externalKeyMissing => "Activation requires the external encryption key"
  | noBiometry => "Activation has no biometry factor"
  | counterExhausted => "Signature counter is exhausted"
  | counterVersion counter wanted =>
    "Counter belongs to protocol " ++ Named.name counter ++ ", not " ++ Named.name wanted
  | nothingEncrypted => "No request was encrypted yet"
  | nothingDecrypted => "No request was decrypted yet"
  | storeGone => "Token store is no longer available"
  | storeUnavailable => "Token store cannot issue headers"
  | tokenInvalid => "Token data is not valid"
  | noActivation => "Session has no activation"
  | stated text => text

/-- A factor mask as it is written in a message. -/
def maskText (bits : Nat) : String :=
  let digits := Text.hexDigits bits
  "0x" ++ String.ofList (List.replicate (2 - digits.length) '0' ++ digits)

/-- The wording of an argument that cannot be right. -/
def ParameterFault.message : ParameterFault → String
  | keySize => "Key must be 16 bytes"
  | applicationMissing => "Application key and secret must not be empty"
  | masterKeyEncoding => "Master server public key is not Base64"
  | masterKeyPoint => "Master server public key is not a P-256 point"
  | externalKeySize => "External encryption key must be 16 bytes"
  | externalKeyZero => "External encryption key is all zeros"
  | unlockDataEmpty => "Unlock key data is empty"
  | saltTooShort => "Password stretching failed: salt is too short"
  | codeSignatureEncoding => "Activation code signature is not Base64"
  | activationCode => "Invalid activation code"
  | recoveryCode => "Invalid recovery code"
  | recoveryPuk => "Recovery PUK must be 10 digits"
  | typedCharacter c => "Character '" ++ String.singleton c ++ "' is not allowed"
  | factors bits => "Unsupported factor combination " ++ maskText bits
  | activationIdEmpty => "Activation id is empty"
  | serverRecovery => "Server issued malformed recovery data"
  | passwordMissing => "User password is required"
  | passwordTooShort => "User password is too short"
  | newPasswordTooShort => "New password is too short"
  | unlockKeyMissing .possession => "Possession unlock key is required"
  | unlockKeyMissing .biometry => "Biometry unlock key is required"
  | unlockKeySize role => "The " ++ role.label ++ " unlock key must be 16 bytes"
  | unlockKeyZero role => "The " ++ role.label ++ " unlock key is all zeros"
  | method name => "Unsupported HTTP method '" ++ name ++ "'"
  | uriEmpty => "Request URI is empty"
  | nonceShape => "Offline nonce must be 16 bytes in Base64"
  | unexpectedNonce => "Use sign_offline for requests with a nonce"
  | nonceMissing => "Offline signature requires a nonce"
  | factorKeyCount => "One to three factor keys are required"
  | vaultFactors => "Vault unlock needs a two-factor signature"
  | foreignAuthorization => "Authorization belongs to another activation"
  | foreignVault => "Vault belongs to another activation"
  | recoveryFactors => "Recovery confirmation needs a two-factor signature"
  | ephemeralKeyMissing => "Request cryptogram has no ephemeral key"
  | tokenIncomplete => "Token data is incomplete"
  | setupEncoding => "Setup is not valid JSON"
  | stated text => text

/-- How an operation ended, as a binding sees it. -/
inductive ResultCode where
  | ok
  | encryption
  | wrongState
  | wrongParameter
deriving DecidableEq, Repr

namespace ResultCode

instance : Named ResultCode where
  all := [ok, encryption, wrongState, wrongParameter]
  name
    | ok => "Ok"
    | encryption => "Encryption"
    | wrongState => "WrongState"
    | wrongParameter => "WrongParam"

/-- The number a binding passes on. -/
def number : ResultCode → Nat
  | ok => 0
  | encryption => 1
  | wrongState => 2
  | wrongParameter => 3

/-- The code of a result. -/
def of {α : Type} : Except Failure α → ResultCode
  | .ok _ => ok
  | .error .encryption => encryption
  | .error (.wrongState _) => wrongState
  | .error (.wrongParameter _) => wrongParameter

end ResultCode

namespace Failure

/-- The code of a failure. -/
def code (failure : Failure) : ResultCode := ResultCode.of (.error failure : Except Failure Unit)

/-- The whole text of a failure. -/
def message : Failure → String
  | encryption => "Cryptographic operation failed"
  | wrongState why => "Wrong state: " ++ why.message
  | wrongParameter why => "Wrong parameter: " ++ why.message

def describe : Failure → String
  | encryption => "Encryption"
  | wrongState why => Text.Description.apply "WrongState" (Text.quoted why.message)
  | wrongParameter why => Text.Description.apply "WrongParam" (Text.quoted why.message)

/-- Whether the integrating application is to blame. -/
def isIntegrationFault : Failure → Bool
  | encryption => false
  | wrongState _ => true
  | wrongParameter _ => true

end Failure

end DeviceAuth
