import DeviceAuth.Failure
import DeviceAuth.Hash.Sha256
import DeviceAuth.Json.Form
import DeviceAuth.Text.Base64

/-!
# Signature counters

Every online signature uses up one value of a counter the server follows. In version 2 the counter is
a number, in version 3 sixteen octets that are hashed to give the next ones. A number that has
reached its last value has no next one: it never starts over.
-/

set_option autoImplicit false

namespace DeviceAuth

/-- A signature counter. -/
inductive Counter where
  | linear (value : UInt64)
  | hashed (data : Octets 16)
deriving DecidableEq

namespace Counter

/-- Octets of a hash-based counter. -/
def dataSize : Nat := 16

/-- The protocol a counter belongs to. -/
def version : Counter → ProtocolVersion
  | linear _ => .v2
  | hashed _ => .v3

/-- The octets that enter a signature as its key material. -/
def octets : Counter → Octets 16
  | linear value => .ofWord value
  | hashed data => data

/-- The first half of the digest of some octets. -/
def hashStep (data : Octets 16) : Octets 16 := (sha256 data.bytes).front 16 16

/-- The counter after one signature. -/
def next : Counter → Except Failure Counter
  | linear value =>
    if value.toNat + 1 < UInt64.size then .ok (linear (value + 1))
    else .error (.wrongState .counterExhausted)
  | hashed data => .ok (hashed (hashStep data))

/-- The counter as it is written into the data that is signed. -/
def canonical : Counter → String
  | linear value => toString value.toNat
  | hashed data => Text.Base64.encode data.bytes

/-- The version 3 counter that a counter is upgraded to without word from the server. -/
def upgraded : Counter → Counter
  | linear value => hashed (hashStep (linear value).octets)
  | hashed data => hashed data

def describe : Counter → String
  | linear value => Text.Description.apply "Linear" (toString value.toNat)
  | hashed _ => "HashBased([REDACTED])"

instance : JsonForm Counter where
  toJson
    | linear value => Json.record [("Linear", toJson value)]
    | hashed data => Json.record [("HashBased", toJson data)]
  ofJson?
    | .object [(some "Linear", value)] => (ofJson? value).map linear
    | .object [(some "HashBased", value)] => (ofJson? value).map hashed
    | _ => none

end Counter

end DeviceAuth
