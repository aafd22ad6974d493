import DeviceAuth.Hash.Sha256

/-!
# HMAC-SHA-256

Keyed digests, and the extract-and-expand derivation that is built from them.
-/

set_option autoImplicit false

namespace DeviceAuth.Hmac

/-- The key brought to one block: a longer one is hashed first, zeros fill the rest. -/
def blockKey (key : Bytes) : Octets 64 :=
  Octets.fitted (if key.length ≤ 64 then key else (sha256 key).bytes)

/-- The block key under a mask octet. -/
def masked (key : Bytes) (mask : UInt8) : Bytes := (blockKey key).bytes.map (· ^^^ mask)

end Hmac

/-- The HMAC of a message under a key of any length. -/
def hmac (key message : Bytes) : Octets 32 :=
  sha256 (Hmac.masked key 0x5c ++ (sha256 (Hmac.masked key 0x36 ++ message)).bytes)

/-- The first expansion block of the HKDF of some input, with an empty salt and a label. -/
def hkdfBlock (input label : Bytes) : Octets 32 :=
  hmac (hmac (List.replicate 32 0) input).bytes (label ++ [1])

end DeviceAuth
