import DeviceAuth.Session.Basic
import DeviceAuth.Signature

/-!
# Signing requests

An online signature uses up the counter: the next value is computed first, so that an exhausted
counter refuses the request whatever it is, and stored last, so that a request that fails costs
nothing. An offline signature leaves the counter alone.

A recovery code is confirmed by a signed request of its own, and remembered when that was signed.
-/

set_option autoImplicit false

namespace DeviceAuth

namespace Session

/-- Sign a request online. -/
def sign (request : Request) (keys : UnlockKeys) (factor : SignatureFactor) :
    Change Session RequestSignature := do
  let s ← Change.object
  let record ← s.activeRecord
  let counter ← record.counter.next
  request.validate
  if request.isOffline then Core.wrongParameter .unexpectedNonce
  let factorKeys ← s.unlockSignatureKeys record keys factor
  let drawn ← Core.draw 16
  let nonce := Text.Base64.encode drawn.bytes
  let data := request.onlineText nonce record.counter s.setup.applicationSecret
  let value ← Signature.compute factorKeys record.counter record.version (Bytes.ofText data)
  setRecord { record with counter }
  Core.note (.signed factor)
  return {
    version := record.version.header
    activationId := record.activationId
    applicationKey := s.setup.applicationKey
    nonce, factor, value }

/-- Sign a request offline. -/
def signOffline (s : Session) (request : Request) (keys : UnlockKeys) (factor : SignatureFactor) :
    Core String := do
  let record ← s.activeRecord
  request.validate
  let nonce ← match request.offlineNonce with
    | some nonce => pure nonce
    | none => Core.wrongParameter .nonceMissing
  let octets ← (Text.Base64.decodeOctets 16 nonce : Except Reason (Octets 16))
  let factorKeys ← s.unlockSignatureKeys record keys factor
  Signature.computeOffline factorKeys octets.bytes (Bytes.ofText (request.offlineText nonce))

end Session

/-! ## Recovery codes -/

/-- A recovery code that was confirmed, ready to send. -/
structure RecoveryConfirmation where
  body : Bytes
  signature : RequestSignature
  alreadyConfirmed : Bool
deriving DecidableEq

namespace Recovery

/-- Where a confirmation is sent. -/
def confirmUri : String := "/pa/v3/recovery/confirm"

/-- The text that confirms a code. -/
def bodyText (code : String) : String := (Json.record [("recoveryCode", toJson code)]).render

/-- The body that confirms a recovery code, with or without its mark. -/
def confirmationBody (code : String) : Core Bytes := do
  return Bytes.ofText (bodyText (← Code.parseRecovery code))

end Recovery

/-- Sign the confirmation of a recovery code, and remember the code. -/
def Session.confirmRecovery (code : String) (keys : UnlockKeys) (factor : SignatureFactor) :
    Change Session RecoveryConfirmation := do
  let _ ← (← Change.object).activeRecord
  let code ← Code.parseRecovery code
  if factor.count < 2 then Core.wrongParameter .recoveryFactors
  let body := Bytes.ofText (Recovery.bodyText code)
  let signature ← Session.sign ⟨"POST", Recovery.confirmUri, body, none⟩ keys factor
  let record ← (← Change.object).activeRecord
  let digest := sha256 (Bytes.ofText code)
  let known := record.knowsCode digest
  Session.setRecord (record.rememberCode digest)
  unless known do Core.note (.recoveryConfirmed record.activationId)
  return ⟨body, signature, known⟩

end DeviceAuth
