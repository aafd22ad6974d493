import DeviceAuth.Text.Radix

/-!
# Base64

Keys, nonces, signatures and messages travel as Base64 over the standard alphabet, filled up with
`=` to whole groups of four. Only that one spelling is read: the padding must be exactly what
`encode` would have put there.
-/

set_option autoImplicit false

namespace DeviceAuth.Text.Base64

/-- Six bits to a symbol: capitals, small letters, digits, `+` and `/`. -/
def alphabet : Alphabet :=
  ⟨6, "ABCDEFGHIJKLMNOPQRSTUVWXYZabcdefghijklmnopqrstuvwxyz0123456789+/".toList⟩

/-- A spelling filled up with `=` to a multiple of four symbols. -/
def padded (symbols : List Char) : List Char :=
  symbols ++ List.replicate ((4 - symbols.length % 4) % 4) '='

/-- The Base64 text of an octet string. -/
def encode (bytes : Bytes) : String := String.ofList (padded (alphabet.spell bytes))

/-- The octets a Base64 text spells; nothing for any other text. -/
def decode? (text : String) : Option Bytes :=
  let symbols := text.toList.takeWhile (· != '=')
  if padded symbols = text.toList then alphabet.read? symbols else none

end DeviceAuth.Text.Base64
