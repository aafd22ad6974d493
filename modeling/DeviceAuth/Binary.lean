import DeviceAuth.Bytes

/-!
# Binary forms

The layout of stored data. Numbers have a fixed width and begin with their least significant octet,
a list begins with its length in eight octets, and a choice begins with its number. Each form has a
writer and a reader; a reader takes what it needs from the front of a string and returns the rest,
and refuses every octet that no writer would have written.
-/

set_option autoImplicit false

namespace DeviceAuth

/-- A type with a binary form. -/
class BinaryForm (α : Type) where
  /-- The octets a value is written as. -/
  write : α → Bytes
  /-- The value at the front of a string, and the rest of it. -/
  read : Bytes → Option (α × Bytes)

namespace Binary

open BinaryForm

variable {α : Type}

/-- The number in the first `width` octets. -/
def readNumber (width : Nat) (bytes : Bytes) : Option (Nat × Bytes) :=
  if width ≤ bytes.length then
    some (Bytes.ofLittleEndian (bytes.take width), bytes.drop width)
  else none

/-- The first `count` octets. -/
def readOctets (count : Nat) (bytes : Bytes) : Option (Bytes × Bytes) :=
  if count ≤ bytes.length then some (bytes.take count, bytes.drop count) else none

/-- `count` values one after the other. -/
def readMany [BinaryForm α] : Nat → Bytes → Option (List α × Bytes)
  | 0, bytes => some ([], bytes)
  | count + 1, bytes => do
    let (a, rest) ← read bytes
    let (items, rest) ← readMany count rest
    return (a :: items, rest)

instance : BinaryForm UInt8 where
  write n := [n]
  read
    | [] => none
    | n :: rest => some (n, rest)

instance : BinaryForm UInt64 where
  write n := Bytes.littleEndian 8 n.toNat
  read bytes := (readNumber 8 bytes).map fun (n, rest) => (UInt64.ofNat n, rest)

/-- The number of a choice. -/
def writeChoice (n : Nat) : Bytes := Bytes.littleEndian 4 n

/-- The number of a choice, and the rest. -/
def readChoice (bytes : Bytes) : Option (Nat × Bytes) := readNumber 4 bytes

instance : BinaryForm Bool where
  write b := [if b then 1 else 0]
  read
    | 0 :: rest => some (false, rest)
    | 1 :: rest => some (true, rest)
    | _ => none

instance [BinaryForm α] : BinaryForm (Option α) where
  write
    | none => [0]
    | some a => 1 :: write a
  read
    | 0 :: rest => some (none, rest)
    | 1 :: rest => (read rest).map fun (a, rest) => (some a, rest)
    | _ => none

instance [BinaryForm α] : BinaryForm (List α) where
  write items := Bytes.littleEndian 8 items.length ++ items.flatMap write
  read bytes := do
    let (count, rest) ← readNumber 8 bytes
    readMany count rest

instance {n : Nat} : BinaryForm (Octets n) where
  write x := x.bytes
  read bytes := do
    let (front, rest) ← readOctets n bytes
    return (← Octets.ofBytes? front, rest)

instance : BinaryForm String where
  write text := write (Bytes.ofText text)
  read bytes := do
    let (octets, rest) ← (read bytes : Option (Bytes × Bytes))
    return (← octets.text?, rest)

end Binary

end DeviceAuth
