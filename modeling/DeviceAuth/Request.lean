import DeviceAuth.Counter
import DeviceAuth.Kdf

/-!
# Requests and what is signed of them

A request is signed online, with a fresh nonce and the counter, or offline, with a nonce that came
with the request and no counter. `onlineText` and `offlineText` write the data that is signed: parts
that may hold any octets are in Base64, so that the separator between the parts is unambiguous up to
the last one.
-/

set_option autoImplicit false

namespace DeviceAuth

/-- A request to sign. -/
structure Request where
  method : String
  /-- A relative address or an identifier of the request. -/
  uri : String
  body : Bytes
  /-- The Base64 nonce of an offline request. -/
  offlineNonce : Option String := none
deriving DecidableEq

namespace Request

/-- The methods that may be signed. -/
def methods : List String := ["GET", "POST", "PUT", "DELETE", "HEAD"]

/-- Octets of a nonce. -/
def nonceSize : Nat := 16

/-- Octets of the Base64 text of a nonce. -/
def nonceTextSize : Nat := 24

/-- Whether a request is to be signed offline. -/
def isOffline (request : Request) : Bool := request.offlineNonce.isSome

/-- Check method, address and the length of a nonce. -/
def validate (request : Request) : Except Failure Unit :=
  if request.method ∉ methods then .error (.wrongParameter (.method request.method))
  else if request.uri.isEmpty then .error (.wrongParameter .uriEmpty)
  else
    match request.offlineNonce with
    | none => .ok ()
    | some nonce =>
      if nonce.utf8ByteSize = nonceTextSize then .ok () else .error (.wrongParameter .nonceShape)

def describe (request : Request) : String :=
  Text.Description.record "HttpRequestData"
    [("method", Text.quoted request.method), ("uri", Text.quoted request.uri),
     ("body", Text.Description.bytes request.body),
     ("offline_nonce", Text.Description.option Text.quoted request.offlineNonce)]

/-- What stands in offline data in the place of the application secret. -/
def offlineSecret : String := "offline"

/-- The parts of signed data, separated. -/
def joined (parts : List String) : String := "&".intercalate parts

/-- The data of an online signature. -/
def onlineText (request : Request) (nonce : String) (counter : Counter) (secret : String) : String :=
  joined [request.method, Text.Base64.encode (Bytes.ofText request.uri), nonce,
    Text.Base64.encode (sha256 request.body).bytes, counter.canonical, secret]

/-- The data of an offline signature. -/
def offlineText (request : Request) (nonce : String) : String :=
  joined [request.method, Text.Base64.encode (Bytes.ofText request.uri), nonce,
    Text.Base64.encode request.body, offlineSecret]

end Request

end DeviceAuth
