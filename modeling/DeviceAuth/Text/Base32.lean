import DeviceAuth.Text.Radix

/-!
# Base32

Activation and recovery codes are Base32 over the capitals and the digits 2 to 7, without padding.
-/

set_option autoImplicit false

namespace DeviceAuth.Text.Base32

/-- Five bits to a symbol: the capitals, then 2 to 7. -/
def alphabet : Alphabet := ⟨5, "ABCDEFGHIJKLMNOPQRSTUVWXYZ234567".toList⟩

/-- The Base32 text of an octet string. -/
def encode (bytes : Bytes) : String := String.ofList (alphabet.spell bytes)

/-- The octets a Base32 text spells; nothing for any other text. -/
def decode? (text : String) : Option Bytes := alphabet.read? text.toList

end DeviceAuth.Text.Base32
