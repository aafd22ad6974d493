import DeviceAuth.Cipher.Aes
import DeviceAuth.Log

/-!
# AES-128 in CBC mode

Messages of any length are encrypted block by block, each block combined with the ciphertext before
it. Data is either filled up to whole blocks, with the count of added octets in each of them, or
must be whole blocks already. Decryption takes at least one block and strips exactly what the
filling would have added; any other ending is refused.
-/

set_option autoImplicit false

namespace DeviceAuth

/-- A key of the cipher. -/
abbrev SymmetricKey := Octets 16

/-- How data is brought to whole blocks. -/
inductive Padding where
  /-- Filled up, always by at least one octet. -/
  | counted
  /-- Whole blocks already. -/
  | whole
deriving DecidableEq, Repr

namespace Cbc

/-- The first `count` blocks of a string. -/
def blocks : Nat → Bytes → List (Octets 16)
  | 0, _ => []
  | count + 1, data => Octets.fitted (data.take 16) :: blocks count (data.drop 16)

/-- The octets of a list of blocks. -/
def joined (xs : List (Octets 16)) : Bytes := xs.flatMap Octets.bytes

/-- Blocks encrypted one after the other. -/
def encryptBlocks (f : Octets 16 → Octets 16) : Octets 16 → List (Octets 16) → List (Octets 16)
  | _, [] => []
  | before, x :: rest =>
    let y := f (x.xor before)
    y :: encryptBlocks f y rest

/-- Blocks decrypted one after the other. -/
def decryptBlocks (f : Octets 16 → Octets 16) : Octets 16 → List (Octets 16) → List (Octets 16)
  | _, [] => []
  | before, y :: rest => (f y).xor before :: decryptBlocks f y rest

/-- How many octets fill a string of this length up. -/
def fillCount (length : Nat) : Nat := 16 - length % 16

/-- Data filled up to whole blocks. -/
def filled (data : Bytes) : Bytes :=
  data ++ List.replicate (fillCount data.length) (UInt8.ofNat (fillCount data.length))

/-- Data without the octets that filled it up; nothing if it does not end as filled data does. -/
def stripped? (data : Bytes) : Option Bytes := do
  let count := (← data.getLast?).toNat
  let kept := data.take (data.length - count)
  guard (1 ≤ count ∧ count ≤ 16 ∧ data = kept ++ List.replicate count (UInt8.ofNat count))
  return kept

/-- Whole blocks encrypted under a key. -/
def encryptWhole (key iv : Octets 16) (data : Bytes) : Bytes :=
  joined (encryptBlocks (Aes.encrypt key) iv (blocks (data.length / 16) data))

/-- Whole blocks decrypted under a key. -/
def decryptWhole (key iv : Octets 16) (data : Bytes) : Bytes :=
  joined (decryptBlocks (Aes.decrypt key) iv (blocks (data.length / 16) data))

/-- Data of any length encrypted, filled up to whole blocks. -/
def encryptFilled (key iv : Octets 16) (data : Bytes) : Bytes := encryptWhole key iv (filled data)

/-- Data encrypted under a key and an initialisation vector. -/
def encrypt (key : SymmetricKey) (iv data : Bytes) (padding : Padding) : Except Reason Bytes :=
  match Octets.ofBytes? iv with
  | none => .error .vectorSize
  | some iv =>
    match padding with
    | .counted => .ok (encryptFilled key iv data)
    | .whole =>
      if data.length % 16 = 0 then .ok (encryptWhole key iv data) else .error .plaintextSize

/-- Data decrypted under a key and an initialisation vector. -/
def decrypt (key : SymmetricKey) (iv data : Bytes) (padding : Padding) : Except Reason Bytes :=
  if data.length = 0 ∨ data.length % 16 ≠ 0 then .error .ciphertextSize
  else
    match Octets.ofBytes? iv with
    | none => .error .vectorSize
    | some iv =>
      let plain := decryptWhole key iv data
      match padding with
      | .whole => .ok plain
      | .counted =>
        match stripped? plain with
        | some kept => .ok kept
        | none => .error .padding

end Cbc

end DeviceAuth
