import DeviceAuth.Bits

/-!
# Octets in an alphabet

Base32 and Base64 are one rule over two alphabets: cut the bits of the octets into groups of fixed
width, write each group as a symbol, and fill the last group with zeros. Reading is strict. Every
symbol must be in the alphabet, fewer bits than one symbol may be left over after the last octet,
and they must all be zero; so each octet string has exactly one spelling.
-/

set_option autoImplicit false

namespace DeviceAuth.Text

/-- An alphabet: how many bits a symbol stands for, and the symbol of each number. -/
structure Alphabet where
  /-- Bits to a symbol. -/
  width : Nat
  /-- The symbols, from that of zero on. -/
  symbols : List Char

namespace Alphabet

variable (alphabet : Alphabet)

/-- The symbol of a number. -/
def symbol (n : Nat) : Char := alphabet.symbols.getD n '?'

/-- The number a symbol stands for. -/
def digit? (c : Char) : Option Nat := alphabet.symbols.idxOf? c

/-- The spelling of an octet string, without padding. -/
def spell (bytes : Bytes) : List Char :=
  let bits := Bits.ofBytes bytes
  (Bits.digits alphabet.width (Bits.groups alphabet.width bits.length) bits).map alphabet.symbol

/-- The octet string a text spells. -/
def read? (text : List Char) : Option Bytes := do
  let values ← text.mapM alphabet.digit?
  let (bytes, spare) := Bits.octets (values.flatMap (Bits.bitsOf alphabet.width))
  guard (spare.length < alphabet.width && spare.all (! ·))
  return bytes

end Alphabet

end DeviceAuth.Text
