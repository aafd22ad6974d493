import DeviceAuth.Bits

/-!
# The curve P-256

Points of `y² = x³ - 3x + b` over a field of prime order. An affine point is a pair of coordinates
that satisfies the equation; the group's neutral element is not one of them. Sums are computed in
Jacobian coordinates, where `(X, Y, Z)` stands for `(X / Z², Y / Z³)` and `Z = 0` for the neutral
element, so that a whole multiple costs one division at its end.
-/

set_option autoImplicit false

namespace DeviceAuth.P256

/-- The order of the field of coordinates. -/
def fieldOrder : Nat := 0xffffffff00000001000000000000000000000000ffffffffffffffffffffffff

/-- The order of the group of points. -/
def groupOrder : Nat := 0xffffffff00000000ffffffffffffffffbce6faada7179e84f3b9cac2fc632551

instance : @NeZero Nat Zero.ofOfNat0 fieldOrder := ⟨by decide⟩
instance : @NeZero Nat Zero.ofOfNat0 groupOrder := ⟨by decide⟩

/-- A coordinate. -/
abbrev Coordinate := Fin fieldOrder

/-- A multiplier of points. -/
abbrev Scalar := Fin groupOrder

/-- The power of a residue, squaring once for each bit of the exponent. -/
def power {m : Nat} (x : Fin m) (exponent : Nat) : Fin m :=
  (Bits.bitsOf 256 exponent).foldl (fun y bit => if bit then y * y * x else y * y)
    ⟨1 % m, Nat.mod_lt 1 x.pos⟩

/-- The inverse of a residue by a prime, and zero for zero. -/
def inverse {m : Nat} (x : Fin m) : Fin m := power x (m - 2)

/-- A root of a square: the field's order leaves three when divided by four. -/
def root (x : Coordinate) : Coordinate := power x ((fieldOrder + 1) / 4)

/-- The constant term of the equation. -/
def constant : Coordinate := 0x5ac635d8aa3a93e7b3ebbd55769886bc651d06b0cc53b0f63bce3c3e27d2604b

/-- The right side of the equation. -/
def cubic (x : Coordinate) : Coordinate := x * x * x - 3 * x + constant

/-- A point of the curve other than the neutral element. -/
structure Point where
  x : Coordinate
  y : Coordinate
  onCurve : y * y = cubic x
deriving DecidableEq

/-- The point with these coordinates, if there is one. -/
def Point.ofCoordinates? (x y : Coordinate) : Option Point :=
  if h : y * y = cubic x then some ⟨x, y, h⟩ else none

/-- The generator of the group. -/
def base : Point where
  x := 0x6b17d1f2e12c4247f8bce6e563a440f277037d812deb33a0f4a13945d898c296
  y := 0x4fe342e2fe1a7f9b8ee7eb4a7c0f9e162bce33576b315ececbb6406837bf51f5
  onCurve := by decide +kernel

/-! ## Sums -/

/-- A point in Jacobian coordinates. -/
structure Jacobian where
  x : Coordinate
  y : Coordinate
  z : Coordinate
deriving DecidableEq

namespace Jacobian

/-- The neutral element. -/
def neutral : Jacobian := ⟨1, 1, 0⟩

/-- An affine point. -/
def ofPoint (p : Point) : Jacobian := ⟨p.x, p.y, 1⟩

/-- A point added to itself. -/
def double (p : Jacobian) : Jacobian :=
  let delta := p.z * p.z
  let gamma := p.y * p.y
  let beta := p.x * gamma
  let alpha := 3 * ((p.x - delta) * (p.x + delta))
  let x := alpha * alpha - 8 * beta
  ⟨x, alpha * (4 * beta - x) - 8 * (gamma * gamma), 2 * (p.y * p.z)⟩

/-- The sum of two points. -/
def add (p q : Jacobian) : Jacobian :=
  if p.z = 0 then q
  else if q.z = 0 then p
  else
    let pzz := p.z * p.z
    let qzz := q.z * q.z
    let u := p.x * qzz
    let s := p.y * (q.z * qzz)
    let h := q.x * pzz - u
    let r := q.y * (p.z * pzz) - s
    if h = 0 then if r = 0 then double p else neutral
    else
      let hh := h * h
      let hhh := h * hh
      let v := u * hh
      let x := r * r - hhh - 2 * v
      ⟨x, r * (v - x) - s * hhh, h * (p.z * q.z)⟩

/-- A multiple of a point: doubled for each bit of the multiplier, the point added for each one. -/
def multiple (k : Nat) (p : Jacobian) : Jacobian :=
  (Bits.bitsOf 256 k).foldl (fun q bit => if bit then add (double q) p else double q) neutral

/-- The affine point, if it is not the neutral element. -/
def point? (p : Jacobian) : Option Point :=
  if p.z = 0 then none
  else
    let w := inverse p.z
    let ww := w * w
    Point.ofCoordinates? (p.x * ww) (p.y * (w * ww))

end Jacobian

/-- The multiple of a point, if it is not the neutral element. -/
def Point.multiple? (k : Nat) (p : Point) : Option Point :=
  (Jacobian.multiple k (.ofPoint p)).point?

/-! ## Encodings -/

/-- The 32 octets of a coordinate. -/
def coordinateOctets (x : Coordinate) : Octets 32 := ⟨Bytes.bigEndian 32 x.val, by simp⟩

/-- The coordinate that octets write, if it is small enough. -/
def coordinate? (bytes : Bytes) : Option Coordinate :=
  if h : Bytes.ofBigEndian bytes < fieldOrder then some ⟨Bytes.ofBigEndian bytes, h⟩ else none

namespace Point

/-- The short encoding: which of the two points over a first coordinate, and that coordinate. -/
def encode (p : Point) : Bytes :=
  (if p.y.val % 2 = 0 then 0x02 else 0x03) :: (coordinateOctets p.x).bytes

/-- The point over a first coordinate whose second one has this parity. -/
def ofParity? (x : Coordinate) (parity : Nat) : Option Point :=
  let y := root (cubic x)
  ofCoordinates? x (if y.val % 2 = parity then y else 0 - y)

/-- The point over a first coordinate whose second one is the smaller. -/
def ofSmaller? (x : Coordinate) : Option Point :=
  let y := root (cubic x)
  ofCoordinates? x (if y.val ≤ (0 - y).val then y else 0 - y)

/-- The point an encoding names. The first octet says how: by a coordinate and a parity, by both
coordinates, or by a coordinate alone. -/
def decode? (bytes : Bytes) : Option Point :=
  match bytes with
  | [] => none
  | tag :: rest =>
    if tag = 0x04 then
      if rest.length = 64 then do
        ofCoordinates? (← coordinate? (rest.take 32)) (← coordinate? (rest.drop 32))
      else none
    else if rest.length = 32 then
      if tag = 0x02 then do ofParity? (← coordinate? rest) 0
      else if tag = 0x03 then do ofParity? (← coordinate? rest) 1
      else if tag = 0x05 then do ofSmaller? (← coordinate? rest)
      else none
    else none

end Point

end DeviceAuth.P256
