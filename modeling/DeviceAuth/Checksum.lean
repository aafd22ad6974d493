import DeviceAuth.Bytes

/-!
# CRC-16

The checksum of a code: the remainder of its bits by a polynomial of degree sixteen, each octet taken
from its least significant bit on. The register starts at zero and nothing is added at the end, so
the checksum of an exclusive or is the exclusive or of the checksums, and a typing error is caught
exactly when its own checksum is not zero.
-/

set_option autoImplicit false

namespace DeviceAuth.Checksum

/-- The register after one bit has left it. -/
def shift (register : UInt16) : UInt16 :=
  if register &&& 1 = 1 then (register >>> 1) ^^^ 0xa001 else register >>> 1

/-- The register after an octet. -/
def absorb (register : UInt16) (octet : UInt8) : UInt16 :=
  Nat.repeat shift 8 (register ^^^ octet.toUInt16)

/-- The checksum of an octet string. -/
def crc16 (bytes : Bytes) : UInt16 := bytes.foldl absorb 0

/-- The two octets a checksum is written as. -/
def octets (bytes : Bytes) : Bytes := Bytes.bigEndian 2 (crc16 bytes).toNat

end DeviceAuth.Checksum
