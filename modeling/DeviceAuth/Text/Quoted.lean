import DeviceAuth.Text.Printable

/-!
# Quoted texts

How a text is shown inside the description of a value: between double quotes, with a backslash
before quotes and backslashes, short escapes for the usual controls, and the code point in
hexadecimal for everything else that is not printable.
-/

set_option autoImplicit false

namespace DeviceAuth.Text

/-- The hexadecimal digits of a number, without leading zeros. -/
def hexDigits (n : Nat) : List Char := Nat.toDigits 16 n

/-- A character written as its code point. -/
def pointEscape (c : Char) : List Char := ['\\', 'u', '\x7b'] ++ hexDigits c.toNat ++ ['\x7d']

/-- One character of a quoted text. -/
def quotedChar (c : Char) : List Char :=
  if c = '\x00' then ['\\', '0']
  else if c = '\t' then ['\\', 't']
  else if c = '\r' then ['\\', 'r']
  else if c = '\n' then ['\\', 'n']
  else if c = '\\' ∨ c = '"' then ['\\', c]
  else if isPrintable c then [c]
  else pointEscape c

/-- A text between quotes, with its escapes. -/
def quoted (text : String) : String :=
  String.ofList ('"' :: text.toList.flatMap quotedChar ++ ['"'])

end DeviceAuth.Text
