import DeviceAuth.Core
import DeviceAuth.Curve.P256
import DeviceAuth.Text.Base64

/-!
# Keys of the curve

A public key is a point of the curve, checked when it is imported, so that a key in hand is never
off the curve and never the neutral element. A key pair holds its scalar together with the point
that belongs to it: the pair is built once, and the point is not computed again.
-/

set_option autoImplicit false

namespace DeviceAuth

open P256

/-- A public key. -/
structure PublicKey where
  point : Point
deriving DecidableEq

namespace PublicKey

/-- Octets of the short encoding. -/
def size : Nat := 33

/-- The octets a public key travels as. -/
def bytes (key : PublicKey) : Bytes := key.point.encode

/-- The Base64 text of a public key. -/
def base64 (key : PublicKey) : String := Text.Base64.encode key.bytes

/-- The public key an encoding names. -/
def ofBytes (bytes : Bytes) : Except Reason PublicKey :=
  match Point.decode? bytes with
  | some point => .ok ⟨point⟩
  | none => .error .publicKeyPoint

def describe (key : PublicKey) : String := Text.Description.apply "EcPublicKey" key.base64

end PublicKey

/-- A private scalar and its public key. -/
structure KeyPair where
  /-- The private scalar. -/
  scalar : Scalar
  /-- The public key. -/
  publicKey : PublicKey
  /-- The scalar is not zero. -/
  scalar_ne_zero : scalar ≠ 0
  /-- The public key is the scalar's multiple of the generator. -/
  agree : base.multiple? scalar.val = some publicKey.point

namespace KeyPair

/-- Octets of a private scalar. -/
def privateSize : Nat := 32

/-- The key pair of a scalar. -/
def ofScalar? (scalar : Scalar) : Option KeyPair :=
  if nonzero : scalar ≠ 0 then
    match agree : base.multiple? scalar.val with
    | some point => some ⟨scalar, ⟨point⟩, nonzero, agree⟩
    | none => none
  else none

/-- The key pair of the scalar that octets write. -/
def ofValue? (bytes : Bytes) : Option KeyPair :=
  if h : Bytes.ofBigEndian bytes < groupOrder then ofScalar? ⟨Bytes.ofBigEndian bytes, h⟩ else none

/-- The key pair whose scalar is one. -/
def unit : KeyPair := ⟨1, ⟨base⟩, by decide, by decide +kernel⟩

/-- The key pair of 32 octets. -/
def ofBytes (bytes : Bytes) : Except Reason KeyPair :=
  if bytes.length ≠ 32 then .error (.privateKeySize bytes.length)
  else
    match ofValue? bytes with
    | some pair => .ok pair
    | none => .error .privateKeyScalar

/-- The 32 octets of the scalar. -/
def privateBytes (pair : KeyPair) : Bytes := Bytes.bigEndian 32 pair.scalar.val

def describe (pair : KeyPair) : String :=
  Text.Description.record "EcKeyPair"
    [("public", Text.quoted pair.publicKey.base64), ("secret", Text.redacted)]

/-- The first of at most `tries` draws that gives a scalar. A stream that gives none ends with the
unit scalar, so that every stream gives a key pair. -/
def search : Nat → Entropy → KeyPair × Entropy
  | 0, stream => (unit, stream)
  | tries + 1, stream =>
    let drawn := stream.draw 32
    match ofValue? drawn.1.bytes with
    | some pair => (pair, drawn.2)
    | none => search tries drawn.2

/-- A fresh key pair. The given octets of the stream may hold any number of refused draws, the
generated ones hardly ever a single one. -/
def generate : Core KeyPair :=
  modifyGet fun a =>
    let found := search (a.entropy.queued.length / 32 + 64) a.entropy
    (found.1, { a with entropy := found.2 })

/-- The first coordinate of the shared point of two parties. -/
def sharedSecret (pair : KeyPair) (peer : PublicKey) : Octets 32 :=
  match peer.point.multiple? pair.scalar.val with
  | some shared => coordinateOctets shared.x
  | none => .zero

end KeyPair

end DeviceAuth
