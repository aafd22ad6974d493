import DeviceAuth.Cipher.Cbc
import DeviceAuth.Hash.Argon2
import DeviceAuth.Hash.Hmac

/-!
# Key derivation

Every key comes from one of three roots: the secret shared with the server, the secret of one
message, or what the user hands over to unlock a stored key.

From the shared secret, folded to sixteen octets, each key of an activation is the encryption of its
index; as a block cipher is injective, different indices give different keys. A message secret is
stretched by hashing it with a counter, and the first block of that serves as a pair of keys, one to
encrypt and one to authenticate.
-/

set_option autoImplicit false

namespace DeviceAuth

namespace SymmetricKey

/-- Octets of a key. -/
def size : Nat := 16

/-- The key of exactly sixteen octets. -/
def ofBytes (bytes : Bytes) : Except Failure SymmetricKey :=
  match Octets.ofBytes? bytes with
  | some key => .ok key
  | none => .error (.wrongParameter .keySize)

/-- The description of a key, whatever its octets. -/
def describe (_ : SymmetricKey) : String := "SymmetricKey([REDACTED])"

/-- The key of an index below this one. -/
def derive (secret : SymmetricKey) (index : UInt64) : SymmetricKey :=
  Aes.encrypt secret (.ofWord index)

end SymmetricKey

/-! ## Indices: what each key of an activation is derived with -/

namespace KeyIndex

/-- Signatures, possession factor. -/
def possession : UInt64 := 1

/-- Signatures, knowledge factor. -/
def knowledge : UInt64 := 2

/-- Signatures, biometry factor. -/
def biometry : UInt64 := 3

/-- Transport of status, vault key and messages. -/
def transport : UInt64 := 1000

/-- The vault. -/
def vault : UInt64 := 2000

end KeyIndex

namespace Kdf

/-- A shared secret folded into the master secret of an activation. -/
def reduce (shared : Octets 32) : SymmetricKey := shared.folded 16

/-- One block of the stretching of a secret with some shared information. -/
def x963Block (secret info : Bytes) (counter : Nat) : Octets 32 :=
  sha256 (secret ++ Bytes.bigEndian 4 counter ++ info)

/-- A secret on its way to be stretched: the octets there are, and the number of the next block, which
is a word of 32 bits. -/
structure Stretching where
  octets : Bytes
  next : UInt32

namespace Stretching

/-- Before the first block. -/
def start : Stretching := ⟨[], 1⟩

/-- One more block. -/
def grow (secret info : Bytes) (s : Stretching) : Stretching :=
  ⟨s.octets ++ (x963Block secret info s.next.toNat).bytes, s.next + 1⟩

theorem length_grow (secret info : Bytes) (s : Stretching) :
    (s.grow secret info).octets.length = s.octets.length + 32 := by
  rw [grow, List.length_append, Octets.length_eq]

/-- Block after block, as long as there are too few octets. -/
def fill (secret info : Bytes) (size : Nat) (s : Stretching) : Stretching :=
  if s.octets.length < size then fill secret info size (s.grow secret info) else s
termination_by size - s.octets.length
decreasing_by
  rw [length_grow]
  omega

end Stretching

/-- A secret stretched with some shared information to any size. -/
def x963 (secret info : Bytes) (size : Nat) : Bytes :=
  (Stretching.start.fill secret info size).octets.take size

/-- A keyed digest folded to sixteen octets. -/
def keyedFold (key : SymmetricKey) (data : Bytes) : Octets 16 := (hmac key.bytes data).folded 16

/-! ## Unlock keys -/

/-- The memory and time a password is stretched with. -/
def passwordCost : Argon2.Cost := ⟨8192, 3⟩

/-- Octets of salt drawn for a password. -/
def passwordSaltSize : Nat := 16

/-- The key a password locks with under a salt, which needs at least eight octets. -/
def passwordLock (password salt : Bytes) : Except Failure SymmetricKey :=
  if salt.length < 8 then .error (.wrongParameter .saltTooShort)
  else .ok (Argon2.stretch passwordCost 16 password salt)

/-- The possession key of data bound to a device. -/
def possessionKey (data : Bytes) : Except Failure SymmetricKey :=
  if data.isEmpty then .error (.wrongParameter .unlockDataEmpty)
  else .ok ((hkdfBlock data (Bytes.ofText "pa-possession-unlock-key")).front 16 16)

end Kdf

/-! ## Sealing keys -/

/-- A key to encrypt with and one to authenticate with. -/
structure SealingKeys where
  encryption : SymmetricKey
  authentication : SymmetricKey
deriving DecidableEq

namespace SealingKeys

/-- The halves of the first block of a stretched secret. -/
def derive (secret info : Bytes) : SealingKeys :=
  let block := Kdf.x963Block secret info 1
  ⟨block.front 16 16, block.back 16 16⟩

end SealingKeys

end DeviceAuth
