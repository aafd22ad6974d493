/-!
# Byte strings

Everything the protocol hashes, encrypts, signs or stores is a string of octets. `Bytes` is that
string as a list, so that proofs go by list induction; `Octets n` is one whose length is fixed by
the protocol: keys, digests, initialisation vectors, counter data. The length is part of the type,
and no operation below can lose it.

Numbers are written into byte strings in either order. `bigEndian w n` and `littleEndian w n` give
the `w` low octets of `n`; `ofBigEndian` and `ofLittleEndian` read them back, and the length lemmas
beside the writers are what the layout lemmas elsewhere are built from.
-/

set_option autoImplicit false

namespace DeviceAuth

/-- A string of octets. -/
abbrev Bytes := List UInt8

namespace Bytes

/-! ## Texts -/

/-- The UTF-8 encoding of a text. -/
def ofText (text : String) : Bytes := text.toUTF8.data.toList

/-- The text an octet string encodes, if it is well-formed UTF-8. -/
def text? (bytes : Bytes) : Option String := String.fromUTF8? ⟨bytes.toArray⟩

/-! ## Numbers -/

/-- The `width` low octets of a number, least significant first. -/
def littleEndian : Nat → Nat → Bytes
  | 0, _ => []
  | width + 1, n => UInt8.ofNat n :: littleEndian width (n / 256)

/-- The number an octet string writes, least significant octet first. -/
def ofLittleEndian : Bytes → Nat
  | [] => 0
  | b :: rest => b.toNat + 256 * ofLittleEndian rest

/-- The `width` low octets of a number, most significant first. -/
def bigEndian (width n : Nat) : Bytes := (littleEndian width n).reverse

/-- The number an octet string writes, most significant octet first. -/
def ofBigEndian (bytes : Bytes) : Nat := ofLittleEndian bytes.reverse

@[simp] theorem length_littleEndian (width n : Nat) : (littleEndian width n).length = width := by
  induction width generalizing n with
  | zero => rfl
  | succ width ih => simp [littleEndian, ih]

@[simp] theorem length_bigEndian (width n : Nat) : (bigEndian width n).length = width := by
  simp [bigEndian]

/-! ## Pairs of strings -/

/-- Octet by octet exclusive or, as long as both strings last. -/
def xor (a b : Bytes) : Bytes := List.zipWith (· ^^^ ·) a b

/-- Equality of two strings, decided over every octet of both: strings of different length never
match, and the answer is the same whichever octet differs. -/
def matching (a b : Bytes) : Bool :=
  a.length == b.length && (xor a b).foldl (· ||| ·) 0 == 0

end Bytes

/-! ## Strings of fixed length -/

/-- A string of exactly `n` octets. -/
structure Octets (n : Nat) where
  /-- The octets in order. -/
  bytes : Bytes
  /-- There are `n` of them. -/
  length_eq : bytes.length = n
deriving DecidableEq

namespace Octets

variable {n : Nat}

@[ext] theorem ext {a b : Octets n} (h : a.bytes = b.bytes) : a = b := by
  cases a; cases b; simpa using h

/-- The string itself, if it has `n` octets. -/
def ofBytes? (bytes : Bytes) : Option (Octets n) :=
  if h : bytes.length = n then some ⟨bytes, h⟩ else none

/-- A string cut or filled up with zeros to `n` octets. -/
def fitted (bytes : Bytes) : Octets n where
  bytes := bytes.take n ++ List.replicate (n - bytes.length) 0
  length_eq := by simp; omega

/-- `n` zero octets. -/
def zero : Octets n := ⟨List.replicate n 0, by simp⟩

/-- A word behind eight zero octets, most significant octet first. -/
def ofWord (word : UInt64) : Octets 16 :=
  ⟨List.replicate 8 0 ++ Bytes.bigEndian 8 word.toNat, by simp⟩

/-- The first `m` of `m + n` octets. -/
def front (m n : Nat) (x : Octets (m + n)) : Octets m :=
  ⟨x.bytes.take m, by simp [x.length_eq]⟩

/-- The last `n` of `m + n` octets. -/
def back (m n : Nat) (x : Octets (m + n)) : Octets n :=
  ⟨x.bytes.drop m, by simp [x.length_eq]⟩

/-- Octet by octet exclusive or. -/
def xor (a b : Octets n) : Octets n :=
  ⟨a.bytes.xor b.bytes, by simp [Bytes.xor, a.length_eq, b.length_eq]⟩

/-- Both halves of a string of even length, folded into one by exclusive or. -/
def folded (n : Nat) (x : Octets (n + n)) : Octets n := (x.front n n).xor (x.back n n)

/-- Whether every octet is zero. -/
def isZero (x : Octets n) : Bool := x.bytes.all (· == 0)

@[simp] theorem ofBytes?_bytes (x : Octets n) : ofBytes? x.bytes = some x := by
  simp [ofBytes?, x.length_eq]

theorem ofBytes?_eq_some_iff {bytes : Bytes} {x : Octets n} :
    ofBytes? bytes = some x ↔ bytes = x.bytes := by
  constructor
  · intro h
    unfold ofBytes? at h
    split at h
    · exact congrArg Octets.bytes (Option.some.inj h)
    · cases h
  · rintro rfl
    simp

end Octets

end DeviceAuth
