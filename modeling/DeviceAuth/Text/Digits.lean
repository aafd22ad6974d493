import DeviceAuth.Bytes

/-!
# Short decimal codes

Numbers a person compares or types are cut from the end of a digest: its last four octets without
the sign bit, reduced to eight decimal digits.
-/

set_option autoImplicit false

namespace DeviceAuth.Text

/-- The decimal digits of a number, filled up on the left with zeros. -/
def paddedDigits (width n : Nat) : List Char :=
  let digits := Nat.toDigits 10 n
  List.replicate (width - digits.length) '0' ++ digits

/-- The number cut from the end of a digest. -/
def shortNumber (digest : Octets 32) : Nat :=
  Bytes.ofBigEndian (digest.bytes.drop 28) % 0x80000000 % 100000000

/-- Its eight digits. -/
def shortDigits (digest : Octets 32) : List Char := paddedDigits 8 (shortNumber digest)

end DeviceAuth.Text
