import DeviceAuth.Request
import DeviceAuth.Text.Digits

/-!
# Multi-factor signatures

A signature has one component for each factor, in the order possession, knowledge, biometry. The key
of a component starts from the factor's own key and is then keyed again by every factor from the
second up to its own, so that a component needs all the keys before it except the first. The counter
goes into every layer.
-/

set_option autoImplicit false

namespace DeviceAuth.Signature

/-- How the components are written. -/
inductive Format where
  | base64
  | decimal
deriving DecidableEq

/-- The key of a component: the factor's own, keyed again by each of `layers`. -/
def componentKey (counter : Bytes) (own : SymmetricKey) (layers : List SymmetricKey) : Octets 32 :=
  layers.foldl (fun key layer => hmac (hmac layer.bytes counter).bytes key.bytes)
    (hmac own.bytes counter)

/-- The components of a signature. -/
def components (keys : List SymmetricKey) (counter data : Bytes) : List (Octets 32) :=
  keys.zipIdx.map fun (key, i) => hmac (componentKey counter key ((keys.drop 1).take i)).bytes data

/-- The text of some components. -/
def render (format : Format) (parts : List (Octets 32)) : String :=
  match format with
  | .base64 => Text.Base64.encode (parts.flatMap fun part => (part.back 16 16).bytes)
  | .decimal => "-".intercalate (parts.map fun part => String.ofList (Text.shortDigits part))

/-- The format of a protocol version. -/
def format : ProtocolVersion → Format
  | .v2 => .decimal
  | .v3 => .base64

/-- One to three keys make a signature. -/
def checkCount (keys : List SymmetricKey) : Except Failure Unit :=
  if 1 ≤ keys.length ∧ keys.length ≤ 3 then .ok () else .error (.wrongParameter .factorKeyCount)

/-- The online signature of some data. A counter of another version is refused before anything else
is looked at. -/
def compute (keys : List SymmetricKey) (counter : Counter) (version : ProtocolVersion)
    (data : Bytes) : Except Failure String := do
  if counter.version ≠ version then
    throw (.wrongState (.counterVersion counter.version version))
  checkCount keys
  return render (format version) (components keys counter.octets.bytes data)

/-- Whether a text is the online signature of some data. -/
def verify (keys : List SymmetricKey) (counter : Counter) (version : ProtocolVersion)
    (data : Bytes) (signature : String) : Except Failure Bool := do
  let expected ← compute keys counter version data
  return (Bytes.ofText expected).matching (Bytes.ofText signature)

/-- The offline signature of some data, with a decoded nonce in the place of the counter. -/
def computeOffline (keys : List SymmetricKey) (nonce data : Bytes) : Except Failure String := do
  if nonce.length ≠ Request.nonceSize then throw .encryption
  checkCount keys
  return render .decimal (components keys nonce data)

end Signature

/-! ## Signed requests -/

/-- The result of signing a request. -/
structure RequestSignature where
  /-- The protocol version, as a header shows it. -/
  version : String
  activationId : String
  applicationKey : String
  /-- The Base64 nonce. -/
  nonce : String
  factor : SignatureFactor
  /-- The signature itself. -/
  value : String
deriving DecidableEq

namespace RequestSignature

/-- The name of the header that carries a signature. -/
def headerName : String := "X-PowerAuth-Authorization"

/-- The value of that header. -/
def header (s : RequestSignature) : String :=
  "PowerAuth pa_activation_id=\"" ++ s.activationId ++ "\", pa_application_key=\""
    ++ s.applicationKey ++ "\", pa_nonce=\"" ++ s.nonce ++ "\", pa_signature_type=\""
    ++ s.factor.header ++ "\", pa_signature=\"" ++ s.value ++ "\", pa_version=\"" ++ s.version
    ++ "\""

end RequestSignature

end DeviceAuth
