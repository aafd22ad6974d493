import DeviceAuth.Bytes

/-!
# AES-128

The block cipher. A block is four columns of four octets. A round substitutes every octet, moves the
rows, mixes each column, and adds a round key; the last round does not mix. Every one of these steps
has an inverse written beside it, and decryption is those inverses in the opposite order, so that
"decryption undoes encryption" comes down to one fact about each step.
-/

set_option autoImplicit false

namespace DeviceAuth.Aes

/-- Octets of a block. -/
def blockSize : Nat := 16

/-! ## Octets -/

/-- The substitution of an octet. -/
def substitution : Array UInt8 :=
  #[0x63, 0x7c, 0x77, 0x7b, 0xf2, 0x6b, 0x6f, 0xc5, 0x30, 0x01, 0x67, 0x2b, 0xfe, 0xd7, 0xab, 0x76,
    0xca, 0x82, 0xc9, 0x7d, 0xfa, 0x59, 0x47, 0xf0, 0xad, 0xd4, 0xa2, 0xaf, 0x9c, 0xa4, 0x72, 0xc0,
    0xb7, 0xfd, 0x93, 0x26, 0x36, 0x3f, 0xf7, 0xcc, 0x34, 0xa5, 0xe5, 0xf1, 0x71, 0xd8, 0x31, 0x15,
    0x04, 0xc7, 0x23, 0xc3, 0x18, 0x96, 0x05, 0x9a, 0x07, 0x12, 0x80, 0xe2, 0xeb, 0x27, 0xb2, 0x75,
    0x09, 0x83, 0x2c, 0x1a, 0x1b, 0x6e, 0x5a, 0xa0, 0x52, 0x3b, 0xd6, 0xb3, 0x29, 0xe3, 0x2f, 0x84,
    0x53, 0xd1, 0x00, 0xed, 0x20, 0xfc, 0xb1, 0x5b, 0x6a, 0xcb, 0xbe, 0x39, 0x4a, 0x4c, 0x58, 0xcf,
    0xd0, 0xef, 0xaa, 0xfb, 0x43, 0x4d, 0x33, 0x85, 0x45, 0xf9, 0x02, 0x7f, 0x50, 0x3c, 0x9f, 0xa8,
    0x51, 0xa3, 0x40, 0x8f, 0x92, 0x9d, 0x38, 0xf5, 0xbc, 0xb6, 0xda, 0x21, 0x10, 0xff, 0xf3, 0xd2,
    0xcd, 0x0c, 0x13, 0xec, 0x5f, 0x97, 0x44, 0x17, 0xc4, 0xa7, 0x7e, 0x3d, 0x64, 0x5d, 0x19, 0x73,
    0x60, 0x81, 0x4f, 0xdc, 0x22, 0x2a, 0x90, 0x88, 0x46, 0xee, 0xb8, 0x14, 0xde, 0x5e, 0x0b, 0xdb,
    0xe0, 0x32, 0x3a, 0x0a, 0x49, 0x06, 0x24, 0x5c, 0xc2, 0xd3, 0xac, 0x62, 0x91, 0x95, 0xe4, 0x79,
    0xe7, 0xc8, 0x37, 0x6d, 0x8d, 0xd5, 0x4e, 0xa9, 0x6c, 0x56, 0xf4, 0xea, 0x65, 0x7a, 0xae, 0x08,
    0xba, 0x78, 0x25, 0x2e, 0x1c, 0xa6, 0xb4, 0xc6, 0xe8, 0xdd, 0x74, 0x1f, 0x4b, 0xbd, 0x8b, 0x8a,
    0x70, 0x3e, 0xb5, 0x66, 0x48, 0x03, 0xf6, 0x0e, 0x61, 0x35, 0x57, 0xb9, 0x86, 0xc1, 0x1d, 0x9e,
    0xe1, 0xf8, 0x98, 0x11, 0x69, 0xd9, 0x8e, 0x94, 0x9b, 0x1e, 0x87, 0xe9, 0xce, 0x55, 0x28, 0xdf,
    0x8c, 0xa1, 0x89, 0x0d, 0xbf, 0xe6, 0x42, 0x68, 0x41, 0x99, 0x2d, 0x0f, 0xb0, 0x54, 0xbb, 0x16]

/-- The inverse of the substitution. -/
def inverseSubstitution : Array UInt8 :=
  #[0x52, 0x09, 0x6a, 0xd5, 0x30, 0x36, 0xa5, 0x38, 0xbf, 0x40, 0xa3, 0x9e, 0x81, 0xf3, 0xd7, 0xfb,
    0x7c, 0xe3, 0x39, 0x82, 0x9b, 0x2f, 0xff, 0x87, 0x34, 0x8e, 0x43, 0x44, 0xc4, 0xde, 0xe9, 0xcb,
    0x54, 0x7b, 0x94, 0x32, 0xa6, 0xc2, 0x23, 0x3d, 0xee, 0x4c, 0x95, 0x0b, 0x42, 0xfa, 0xc3, 0x4e,
    0x08, 0x2e, 0xa1, 0x66, 0x28, 0xd9, 0x24, 0xb2, 0x76, 0x5b, 0xa2, 0x49, 0x6d, 0x8b, 0xd1, 0x25,
    0x72, 0xf8, 0xf6, 0x64, 0x86, 0x68, 0x98, 0x16, 0xd4, 0xa4, 0x5c, 0xcc, 0x5d, 0x65, 0xb6, 0x92,
    0x6c, 0x70, 0x48, 0x50, 0xfd, 0xed, 0xb9, 0xda, 0x5e, 0x15, 0x46, 0x57, 0xa7, 0x8d, 0x9d, 0x84,
    0x90, 0xd8, 0xab, 0x00, 0x8c, 0xbc, 0xd3, 0x0a, 0xf7, 0xe4, 0x58, 0x05, 0xb8, 0xb3, 0x45, 0x06,
    0xd0, 0x2c, 0x1e, 0x8f, 0xca, 0x3f, 0x0f, 0x02, 0xc1, 0xaf, 0xbd, 0x03, 0x01, 0x13, 0x8a, 0x6b,
    0x3a, 0x91, 0x11, 0x41, 0x4f, 0x67, 0xdc, 0xea, 0x97, 0xf2, 0xcf, 0xce, 0xf0, 0xb4, 0xe6, 0x73,
    0x96, 0xac, 0x74, 0x22, 0xe7, 0xad, 0x35, 0x85, 0xe2, 0xf9, 0x37, 0xe8, 0x1c, 0x75, 0xdf, 0x6e,
    0x47, 0xf1, 0x1a, 0x71, 0x1d, 0x29, 0xc5, 0x89, 0x6f, 0xb7, 0x62, 0x0e, 0xaa, 0x18, 0xbe, 0x1b,
    0xfc, 0x56, 0x3e, 0x4b, 0xc6, 0xd2, 0x79, 0x20, 0x9a, 0xdb, 0xc0, 0xfe, 0x78, 0xcd, 0x5a, 0xf4,
    0x1f, 0xdd, 0xa8, 0x33, 0x88, 0x07, 0xc7, 0x31, 0xb1, 0x12, 0x10, 0x59, 0x27, 0x80, 0xec, 0x5f,
    0x60, 0x51, 0x7f, 0xa9, 0x19, 0xb5, 0x4a, 0x0d, 0x2d, 0xe5, 0x7a, 0x9f, 0x93, 0xc9, 0x9c, 0xef,
    0xa0, 0xe0, 0x3b, 0x4d, 0xae, 0x2a, 0xf5, 0xb0, 0xc8, 0xeb, 0xbb, 0x3c, 0x83, 0x53, 0x99, 0x61,
    0x17, 0x2b, 0x04, 0x7e, 0xba, 0x77, 0xd6, 0x26, 0xe1, 0x69, 0x14, 0x63, 0x55, 0x21, 0x0c, 0x7d]

/-- An octet substituted. -/
def substitute (b : UInt8) : UInt8 := substitution.getD b.toNat 0

/-- An octet put back. -/
def restore (b : UInt8) : UInt8 := inverseSubstitution.getD b.toNat 0

/-- Multiplication by two in the field of 256 elements. -/
def double (b : UInt8) : UInt8 := (b <<< 1) ^^^ (if b < 0x80 then 0 else 0x1b)

/-- Multiplication by three. -/
def times3 (b : UInt8) : UInt8 := double b ^^^ b

/-- Multiplication by nine. -/
def times9 (b : UInt8) : UInt8 := double (double (double b)) ^^^ b

/-- Multiplication by eleven. -/
def times11 (b : UInt8) : UInt8 := double (double (double b) ^^^ b) ^^^ b

/-- Multiplication by thirteen. -/
def times13 (b : UInt8) : UInt8 := double (double (double b ^^^ b)) ^^^ b

/-- Multiplication by fourteen. -/
def times14 (b : UInt8) : UInt8 := double (double (double b ^^^ b) ^^^ b)

/-! ## Columns and blocks -/

/-- Four octets, from the top row to the bottom one. -/
@[ext] structure Column where
  a : UInt8
  b : UInt8
  c : UInt8
  d : UInt8
deriving DecidableEq

namespace Column

/-- Octet by octet exclusive or. -/
def xor (p q : Column) : Column := ⟨p.a ^^^ q.a, p.b ^^^ q.b, p.c ^^^ q.c, p.d ^^^ q.d⟩

/-- Every octet through a function. -/
def map (f : UInt8 → UInt8) (p : Column) : Column := ⟨f p.a, f p.b, f p.c, f p.d⟩

/-- The column multiplied by the mixing polynomial. -/
def mix (p : Column) : Column :=
  ⟨double p.a ^^^ times3 p.b ^^^ p.c ^^^ p.d, p.a ^^^ double p.b ^^^ times3 p.c ^^^ p.d,
    p.a ^^^ p.b ^^^ double p.c ^^^ times3 p.d, times3 p.a ^^^ p.b ^^^ p.c ^^^ double p.d⟩

/-- The column multiplied by the inverse of the mixing polynomial. -/
def unmix (p : Column) : Column :=
  ⟨times14 p.a ^^^ times11 p.b ^^^ times13 p.c ^^^ times9 p.d,
    times9 p.a ^^^ times14 p.b ^^^ times11 p.c ^^^ times13 p.d,
    times13 p.a ^^^ times9 p.b ^^^ times14 p.c ^^^ times11 p.d,
    times11 p.a ^^^ times13 p.b ^^^ times9 p.c ^^^ times14 p.d⟩

end Column

/-- Four columns: the state of the cipher, or a round key. -/
@[ext] structure Block where
  p : Column
  q : Column
  r : Column
  s : Column
deriving DecidableEq

namespace Block

/-- Octet by octet exclusive or. -/
def xor (x y : Block) : Block := ⟨x.p.xor y.p, x.q.xor y.q, x.r.xor y.r, x.s.xor y.s⟩

/-- Every column through a function. -/
def map (f : Column → Column) (x : Block) : Block := ⟨f x.p, f x.q, f x.r, f x.s⟩

/-- Each row turned to the left, by its number. -/
def shift (x : Block) : Block :=
  ⟨⟨x.p.a, x.q.b, x.r.c, x.s.d⟩, ⟨x.q.a, x.r.b, x.s.c, x.p.d⟩,
    ⟨x.r.a, x.s.b, x.p.c, x.q.d⟩, ⟨x.s.a, x.p.b, x.q.c, x.r.d⟩⟩

/-- Each row turned back to the right. -/
def unshift (x : Block) : Block :=
  ⟨⟨x.p.a, x.s.b, x.r.c, x.q.d⟩, ⟨x.q.a, x.p.b, x.s.c, x.r.d⟩,
    ⟨x.r.a, x.q.b, x.p.c, x.s.d⟩, ⟨x.s.a, x.r.b, x.q.c, x.p.d⟩⟩

/-- The block of sixteen octets, column by column. -/
def ofOctets (x : Octets 16) : Block :=
  let o := fun i => x.bytes.getD i 0
  ⟨⟨o 0, o 1, o 2, o 3⟩, ⟨o 4, o 5, o 6, o 7⟩, ⟨o 8, o 9, o 10, o 11⟩, ⟨o 12, o 13, o 14, o 15⟩⟩

/-- The octets of a block, column by column. -/
def octets (x : Block) : Octets 16 :=
  ⟨[x.p.a, x.p.b, x.p.c, x.p.d, x.q.a, x.q.b, x.q.c, x.q.d,
    x.r.a, x.r.b, x.r.c, x.r.d, x.s.a, x.s.b, x.s.c, x.s.d], rfl⟩

end Block

/-! ## Keys and rounds -/

/-- The round key that follows another, with the constant of its round. -/
def nextKey (k : Block) (constant : UInt8) : Block :=
  let t : Column :=
    ⟨substitute k.s.b ^^^ constant, substitute k.s.c, substitute k.s.d, substitute k.s.a⟩
  let p := k.p.xor t
  let q := k.q.xor p
  let r := k.r.xor q
  ⟨p, q, r, k.s.xor r⟩

/-- The round keys of a cipher key. -/
structure Schedule where
  /-- Added before the first round. -/
  first : Block
  /-- Added after each round that mixes. -/
  middle : List Block
  /-- Added after the last round. -/
  last : Block

/-- The successive round keys after `k`, one for each constant. -/
def expand (k : Block) : List UInt8 → List Block
  | [] => []
  | constant :: rest =>
    let next := nextKey k constant
    next :: expand next rest

/-- The schedule of a cipher key. -/
def Schedule.ofKey (key : Octets 16) : Schedule :=
  let first := Block.ofOctets key
  let keys := expand first [0x01, 0x02, 0x04, 0x08, 0x10, 0x20, 0x40, 0x80, 0x1b, 0x36]
  ⟨first, keys.dropLast, keys.getLastD first⟩

/-- A round that mixes. -/
def round (x k : Block) : Block :=
  (((x.map (Column.map substitute)).shift).map Column.mix).xor k

/-- A round that mixes, undone. -/
def unround (x k : Block) : Block :=
  (((x.xor k).map Column.unmix).unshift).map (Column.map restore)

/-- A block encrypted. -/
def encryptBlock (keys : Schedule) (x : Block) : Block :=
  let y := keys.middle.foldl round (x.xor keys.first)
  ((y.map (Column.map substitute)).shift).xor keys.last

/-- A block decrypted. -/
def decryptBlock (keys : Schedule) (x : Block) : Block :=
  let y := ((x.xor keys.last).unshift).map (Column.map restore)
  (keys.middle.foldr (fun k y => unround y k) y).xor keys.first

/-- Sixteen octets encrypted under a key. -/
def encrypt (key x : Octets 16) : Octets 16 :=
  (encryptBlock (Schedule.ofKey key) (Block.ofOctets x)).octets

/-- Sixteen octets decrypted under a key. -/
def decrypt (key x : Octets 16) : Octets 16 :=
  (decryptBlock (Schedule.ofKey key) (Block.ofOctets x)).octets

end DeviceAuth.Aes
