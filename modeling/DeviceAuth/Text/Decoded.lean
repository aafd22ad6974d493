import DeviceAuth.Log
import DeviceAuth.Text.Base32
import DeviceAuth.Text.Base64

/-!
# Decoding with a reason

The strict decoders again, as they are used where a bad text is a cryptographic failure: with the
reason that is logged.
-/

set_option autoImplicit false

namespace DeviceAuth.Text

/-- The octets of a Base64 text. -/
def Base64.decode (text : String) : Except Reason Bytes :=
  match Base64.decode? text with
  | some bytes => .ok bytes
  | none => .error .base64

/-- The octets of a Base64 text of exactly `n` of them. -/
def Base64.decodeOctets (n : Nat) (text : String) : Except Reason (Octets n) :=
  match Base64.decode text with
  | .error why => .error why
  | .ok bytes =>
    match Octets.ofBytes? bytes with
    | some octets => .ok octets
    | none => .error (.base64Size bytes.length n)

/-- The octets of a Base32 text. -/
def Base32.decode (text : String) : Except Reason Bytes :=
  match Base32.decode? text with
  | some bytes => .ok bytes
  | none => .error .base32

end DeviceAuth.Text
