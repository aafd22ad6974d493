import DeviceAuth.Code.Basic
import DeviceAuth.Curve.Ecdsa
import DeviceAuth.Json.Form
import DeviceAuth.Text.Decoded

/-!
# Signed activation codes

A code that was scanned rather than typed comes with a signature of the server over its text, after
a hash sign. The signature is checked against the server's master key before an activation starts.
-/

set_option autoImplicit false

namespace DeviceAuth

/-- An activation code, perhaps with its signature. -/
structure ActivationCode where
  /-- The code itself. -/
  code : String
  /-- The signature, in Base64. -/
  signature : Option String
deriving DecidableEq

namespace ActivationCode

/-- The text before the first hash sign, and what follows it. -/
def split (text : String) : String × Option String :=
  match text.toList.span (· ≠ '#') with
  | (_, []) => (text, none)
  | (code, _ :: signature) => (String.ofList code, some (String.ofList signature))

/-- Check the form of a signature. -/
def checkSignature : Option String → Core Unit
  | none => pure ()
  | some signature => do
    if signature.isEmpty then Core.wrongParameter .codeSignatureEncoding
    if (Text.Base64.decode? signature).isNone then
      Core.note (.failed .base64)
      Core.wrongParameter .codeSignatureEncoding

/-- The code that a scanned or typed text gives. -/
def parse (text : String) : Core ActivationCode := do
  let (code, signature) := split text
  checkSignature signature
  if ← Code.checkActivation code then return ⟨code, signature⟩
  else Core.wrongParameter .activationCode

/-- Check the signature against the server's key; a code without one passes. -/
def verify (code : ActivationCode) (key : PublicKey) : Core Unit := do
  match code.signature with
  | none => pure ()
  | some signature =>
    let octets ← (Text.Base64.decode signature : Except Reason Bytes)
    unless ← Ecdsa.verify key (Bytes.ofText code.code) octets do Core.refuse .codeSignature

def describe (code : ActivationCode) : String :=
  Text.Description.record "ActivationCode"
    [("activation_code", Text.quoted code.code),
     ("activation_signature", Text.Description.option Text.quoted code.signature)]

def layout : Json.Layout := ⟨["activation_code", "activation_signature"], 2⟩

instance : JsonForm ActivationCode where
  toJson code := Json.record
    [("activation_code", toJson code.code), ("activation_signature", toJson code.signature)]
  ofJson? value := do
    match ← layout.fields? value with
    | [code, signature] => return ⟨← Json.required? code, ← Json.given? none signature⟩
    | _ => none

end ActivationCode

end DeviceAuth
