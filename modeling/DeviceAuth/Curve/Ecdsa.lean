import DeviceAuth.Curve.Key
import DeviceAuth.Hash.Hmac

/-!
# ECDSA

Signatures over SHA-256 digests. The nonce of a signature is derived from the private scalar and the
digest, so that signing is a function of both; it is the digest as it stands that goes into the
nonce, while the signature itself counts it modulo the group order. A signature is written as a DER
sequence of two integers, and only that one spelling is read back. Of the two values that verify for
one nonce both are accepted.
-/

set_option autoImplicit false

namespace DeviceAuth.Ecdsa

open P256

/-- The two numbers of a signature. -/
structure Signature where
  r : Nat
  s : Nat
deriving DecidableEq

/-! ## Encoding -/

/-- The octets of a number without leading zeros; zero has none. -/
def shortest (n : Nat) : Bytes := (Bytes.bigEndian 32 n).dropWhile (· == 0)

/-- The content of an integer: a zero octet keeps a leading one bit from meaning a sign. -/
def integerContent (n : Nat) : Bytes :=
  match shortest n with
  | [] => [0]
  | b :: rest => if b < 0x80 then b :: rest else 0 :: b :: rest

/-- A tag, the length of the content, and the content, which must be shorter than 128 octets. -/
def element (tag : UInt8) (content : Bytes) : Bytes :=
  tag :: UInt8.ofNat content.length :: content

/-- The octets of a signature. -/
def Signature.encode (g : Signature) : Bytes :=
  element 0x30 (element 0x02 (integerContent g.r) ++ element 0x02 (integerContent g.s))

/-- The content of the element at the front, and what follows it. -/
def content? (tag : UInt8) : Bytes → Option (Bytes × Bytes)
  | t :: length :: rest =>
    if t = tag ∧ length.toNat ≤ rest.length then
      some (rest.take length.toNat, rest.drop length.toNat)
    else none
  | _ => none

/-- Whether both numbers are in range. -/
def Signature.inRange (g : Signature) : Bool :=
  0 < g.r && g.r < groupOrder && 0 < g.s && g.s < groupOrder

/-- The signature that octets write, if they are its own encoding and its numbers are in range. -/
def Signature.decode? (bytes : Bytes) : Option Signature := do
  let (inner, _) ← content? 0x30 bytes
  let (r, rest) ← content? 0x02 inner
  let (s, _) ← content? 0x02 rest
  let g : Signature := ⟨Bytes.ofBigEndian r, Bytes.ofBigEndian s⟩
  guard (g.inRange && g.encode == bytes)
  return g

/-! ## Nonces -/

/-- A digest as a scalar. -/
def digestScalar (digest : Octets 32) : Scalar :=
  Fin.ofNat groupOrder (Bytes.ofBigEndian digest.bytes)

/-- The state of the nonce derivation. -/
structure NonceState where
  key : Bytes
  value : Bytes

namespace NonceState

/-- The state with further input mixed in, and the value moved on. -/
def mix (state : NonceState) (input : Bytes) : NonceState :=
  let key := (hmac state.key (state.value ++ input)).bytes
  ⟨key, (hmac key state.value).bytes⟩

/-- The state for a scalar and a digest. -/
def start (scalar : Scalar) (digest : Octets 32) : NonceState :=
  let seed := Bytes.bigEndian 32 scalar.val ++ digest.bytes
  ((NonceState.mk (List.replicate 32 0) (List.replicate 32 1)).mix (0 :: seed)).mix (1 :: seed)

/-- The candidate a state gives. -/
def candidate (state : NonceState) : Bytes := (hmac state.key state.value).bytes

/-- The state after its candidate was refused. -/
def next (state : NonceState) : NonceState := (NonceState.mk state.key state.candidate).mix [0]

end NonceState

/-! ## Signing and verifying -/

/-- The signature with a nonce, if the nonce is in range and neither number comes out as zero. -/
def withNonce? (scalar digest : Scalar) (nonce : Nat) : Option Signature := do
  guard (0 < nonce ∧ nonce < groupOrder)
  let r := Fin.ofNat groupOrder (← base.multiple? nonce).x.val
  let s := inverse (Fin.ofNat groupOrder nonce) * (digest + r * scalar)
  guard (r ≠ 0 ∧ s ≠ 0)
  return ⟨r.val, s.val⟩

/-- The signature with the first of at most `tries` candidates that gives one. Should all be refused,
one and two are tried as well, which cannot both give zero. -/
def search? (scalar digest : Scalar) : Nat → NonceState → Option Signature
  | 0, _ => [1, 2].findSome? (withNonce? scalar digest)
  | tries + 1, state =>
    match withNonce? scalar digest (Bytes.ofBigEndian state.candidate) with
    | some g => some g
    | none => search? scalar digest tries state.next

/-- The signature over a digest. -/
def signDigest (scalar : Scalar) (digest : Octets 32) : Signature :=
  (search? scalar (digestScalar digest) 64 (.start scalar digest)).getD ⟨1, 1⟩

/-- The signature of a message. -/
def sign (pair : KeyPair) (message : Bytes) : Bytes :=
  (signDigest pair.scalar (sha256 message)).encode

/-- Whether a signature over a digest is one of this key. -/
def verifyDigest (key : PublicKey) (digest : Octets 32) (g : Signature) : Bool :=
  let w := inverse (Fin.ofNat groupOrder g.s)
  let u := digestScalar digest * w
  let v := Fin.ofNat groupOrder g.r * w
  let sum := (Jacobian.multiple u.val (.ofPoint base)).add
    (Jacobian.multiple v.val (.ofPoint key.point))
  match sum.point? with
  | some p => p.x.val % groupOrder = g.r
  | none => false

/-- Whether the octets are this key's signature of a message. -/
def verifies (key : PublicKey) (message signature : Bytes) : Bool :=
  match Signature.decode? signature with
  | some g => verifyDigest key (sha256 message) g
  | none => false

/-- Verify a signature, logging when it is not even an encoding. -/
def verify (key : PublicKey) (message signature : Bytes) : Core Bool := do
  if (Signature.decode? signature).isNone then Core.note (.failed .signatureEncoding)
  return verifies key message signature

end DeviceAuth.Ecdsa
