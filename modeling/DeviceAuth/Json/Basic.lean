/-!
# JSON values

A JSON value as it is read and written here. Two kinds of lexeme are accepted whose content no
record of this library reads, and the value keeps only that they were there: a numeral with a sign,
a fraction or an exponent, and a quoted literal whose escapes leave half of a surrogate pair alone,
which denotes no text.

`Json.render` writes a value compactly. The fields of an object keep their order.
-/

set_option autoImplicit false

namespace DeviceAuth

/-- What a quoted literal denotes: a text, or nothing when an escape leaves a surrogate alone. -/
abbrev Literal := Option String

/-- A JSON value. -/
inductive Json where
  | null
  | bool (b : Bool)
  /-- A numeral of digits only. -/
  | whole (n : Nat)
  /-- Any other numeral. -/
  | decimal
  | literal (text : Literal)
  | array (items : List Json)
  | object (fields : List (Literal × Json))

namespace Json

/-- A hexadecimal digit. -/
def hexDigit (n : Nat) : Char := "0123456789abcdef".toList.getD n '0'

/-- One character of a literal. Controls are escaped, by letter where they have one. -/
def renderChar (c : Char) : List Char :=
  if c = '"' ∨ c = '\\' then ['\\', c]
  else if c = '\x08' then ['\\', 'b']
  else if c = '\x0c' then ['\\', 'f']
  else if c = '\n' then ['\\', 'n']
  else if c = '\r' then ['\\', 'r']
  else if c = '\t' then ['\\', 't']
  else if c.toNat < 32 then
    ['\\', 'u', '0', '0', hexDigit (c.toNat / 16), hexDigit (c.toNat % 16)]
  else [c]

/-- A quoted literal. -/
def renderLiteral : Literal → List Char
  | some text => '"' :: text.toList.flatMap renderChar ++ ['"']
  | none => "\"\\ud800\"".toList

mutual

/-- The characters a value is written with. -/
def renderChars : Json → List Char
  | .null => "null".toList
  | .bool true => "true".toList
  | .bool false => "false".toList
  | .whole n => Nat.toDigits 10 n
  | .decimal => "-0".toList
  | .literal text => renderLiteral text
  | .array [] => "[]".toList
  | .array (item :: items) => '[' :: renderChars item ++ renderItems items
  | .object [] => ['\x7b', '\x7d']
  | .object ((key, value) :: fields) =>
    '\x7b' :: renderLiteral key ++ ':' :: renderChars value ++ renderFields fields

/-- The rest of an array after its first item. -/
def renderItems : List Json → List Char
  | [] => [']']
  | item :: items => ',' :: renderChars item ++ renderItems items

/-- The rest of an object after its first field. -/
def renderFields : List (Literal × Json) → List Char
  | [] => ['\x7d']
  | (key, value) :: fields =>
    ',' :: renderLiteral key ++ ':' :: renderChars value ++ renderFields fields

end

/-- The text of a value. -/
def render (value : Json) : String := String.ofList value.renderChars

end Json

end DeviceAuth
