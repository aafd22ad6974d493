import DeviceAuth.Json.Basic

/-!
# Reading JSON

The grammar is the standard one: no comments, no trailing commas, no leading zeros, and blanks only
between tokens. Each reader takes what it needs from the front of a text and returns the rest. Nested
values are read with a bound on the number of steps, which the length of the text always covers.
-/

set_option autoImplicit false

namespace DeviceAuth.Json

/-- Blanks between tokens. -/
def isBlank (c : Char) : Bool := c = ' ' || c = '\t' || c = '\n' || c = '\r'

/-- A text without the blanks at its front. -/
def skipBlanks (text : List Char) : List Char := text.dropWhile isBlank

/-! ## Literals -/

/-- A piece of a literal: a character, or a unit of UTF-16 that was written as an escape. -/
inductive Piece where
  | char (c : Char)
  | unit (n : Nat)

/-- The value of a hexadecimal digit. -/
def hexValue? (c : Char) : Option Nat :=
  if c.isDigit then some (c.toNat - 48)
  else if 'a' ≤ c ∧ c ≤ 'f' then some (c.toNat - 87)
  else if 'A' ≤ c ∧ c ≤ 'F' then some (c.toNat - 55)
  else none

/-- The value of four hexadecimal digits. -/
def hexUnit? (a b c d : Char) : Option Nat := do
  return (((← hexValue? a) * 16 + (← hexValue? b)) * 16 + (← hexValue? c)) * 16 + (← hexValue? d)

/-- The character an escape by letter stands for. -/
def escaped? (c : Char) : Option Char :=
  if c = '"' ∨ c = '\\' ∨ c = '/' then some c
  else if c = 'b' then some '\x08'
  else if c = 'f' then some '\x0c'
  else if c = 'n' then some '\n'
  else if c = 'r' then some '\r'
  else if c = 't' then some '\t'
  else none

/-- The pieces of a literal after its opening quote, and the text after its closing one. -/
def readPieces : List Char → Option (List Piece × List Char)
  | [] => none
  | '"' :: rest => some ([], rest)
  | '\\' :: 'u' :: a :: b :: c :: d :: rest => do
    let n ← hexUnit? a b c d
    let (pieces, rest) ← readPieces rest
    return (.unit n :: pieces, rest)
  | '\\' :: e :: rest => do
    let c ← escaped? e
    let (pieces, rest) ← readPieces rest
    return (.char c :: pieces, rest)
  | c :: rest => do
    guard (32 ≤ c.toNat ∧ c ≠ '\\')
    let (pieces, rest) ← readPieces rest
    return (.char c :: pieces, rest)

/-- Whether a unit opens a surrogate pair. -/
def isLeading (n : Nat) : Bool := 0xd800 ≤ n && n < 0xdc00

/-- Whether a unit closes a surrogate pair. -/
def isTrailing (n : Nat) : Bool := 0xdc00 ≤ n && n < 0xe000

/-- The characters that pieces denote; nothing if a surrogate stands alone. -/
def joinPieces : List Piece → Option (List Char)
  | [] => some []
  | .char c :: rest => do return c :: (← joinPieces rest)
  | .unit n :: .unit m :: rest =>
    if isLeading n && isTrailing m then do
      return Char.ofNat (0x10000 + (n - 0xd800) * 0x400 + (m - 0xdc00)) :: (← joinPieces rest)
    else if isLeading n || isTrailing n then none
    else do return Char.ofNat n :: (← joinPieces (.unit m :: rest))
  | .unit n :: rest =>
    if isLeading n || isTrailing n then none else do return Char.ofNat n :: (← joinPieces rest)

/-- A literal after its opening quote, and the text after it. -/
def readLiteral (text : List Char) : Option (Literal × List Char) := do
  let (pieces, rest) ← readPieces text
  return ((joinPieces pieces).map String.ofList, rest)

/-! ## Numerals -/

/-- Digits at the front of a text, at least one, and the text after them. -/
def readDigits (text : List Char) : Option (List Char × List Char) :=
  let digits := text.takeWhile Char.isDigit
  if digits.isEmpty then none else some (digits, text.dropWhile Char.isDigit)

/-- The number that digits write. -/
def digitsValue (digits : List Char) : Nat :=
  digits.foldl (fun n c => 10 * n + (c.toNat - 48)) 0

/-- The digits before a fraction or exponent: a lone zero, or digits that begin with another one. -/
def readWhole (text : List Char) : Option (List Char × List Char) := do
  let (digits, rest) ← readDigits text
  guard (digits = ['0'] ∨ digits.head? ≠ some '0')
  return (digits, rest)

/-- The text after a fraction, if there is one. -/
def skipFraction : List Char → Option (List Char)
  | '.' :: rest => do return (← readDigits rest).2
  | text => some text

/-- The text after an exponent, if there is one. -/
def skipExponent (text : List Char) : Option (List Char) :=
  match text with
  | c :: rest =>
    if c = 'e' ∨ c = 'E' then
      match rest with
      | s :: tail => do return (← readDigits (if s = '+' ∨ s = '-' then tail else s :: tail)).2
      | [] => none
    else some text
  | [] => some text

/-- Whether a numeral goes on after its digits. -/
def continues : List Char → Bool
  | [] => false
  | c :: _ => c = '.' || c = 'e' || c = 'E'

/-- A numeral and the text after it. -/
def readNumeral (text : List Char) : Option (Json × List Char) :=
  match text with
  | '-' :: rest => do
    let (_, rest) ← readWhole rest
    return (.decimal, ← skipExponent (← skipFraction rest))
  | _ => do
    let (digits, rest) ← readWhole text
    return (if continues rest then .decimal else .whole (digitsValue digits),
      ← skipExponent (← skipFraction rest))

/-! ## Values -/

/-- The text after a keyword. -/
def readKeyword (word : String) (value : Json) (text : List Char) : Option (Json × List Char) := do
  return (value, ← word.toList.isPrefixOf? text)

mutual

/-- A value at the front of a text, and the text after it. -/
def readValue : Nat → List Char → Option (Json × List Char)
  | 0, _ => none
  | _, [] => none
  | steps + 1, c :: rest =>
    if c = '"' then do
      let (text, rest) ← readLiteral rest
      return (.literal text, rest)
    else if c = '[' then
      match skipBlanks rest with
      | ']' :: rest => some (.array [], rest)
      | rest => do
        let (items, rest) ← readItems steps rest
        return (.array items, rest)
    else if c = '\x7b' then
      match skipBlanks rest with
      | '\x7d' :: rest => some (.object [], rest)
      | rest => do
        let (fields, rest) ← readFields steps rest
        return (.object fields, rest)
    else if c = 'n' then readKeyword "ull" .null rest
    else if c = 't' then readKeyword "rue" (.bool true) rest
    else if c = 'f' then readKeyword "alse" (.bool false) rest
    else readNumeral (c :: rest)

/-- The items of an array from one of them on, and the text after the array. -/
def readItems : Nat → List Char → Option (List Json × List Char)
  | 0, _ => none
  | steps + 1, text => do
    let (item, rest) ← readValue steps text
    match skipBlanks rest with
    | ',' :: rest => do
      let (items, rest) ← readItems steps (skipBlanks rest)
      return (item :: items, rest)
    | ']' :: rest => some ([item], rest)
    | _ => none

/-- The fields of an object from one of them on, and the text after the object. -/
def readFields : Nat → List Char → Option (List (Literal × Json) × List Char)
  | 0, _ => none
  | steps + 1, text => do
    match text with
    | '"' :: rest => do
      let (key, rest) ← readLiteral rest
      match skipBlanks rest with
      | ':' :: rest => do
        let (value, rest) ← readValue steps (skipBlanks rest)
        match skipBlanks rest with
        | ',' :: rest => do
          let (fields, rest) ← readFields steps (skipBlanks rest)
          return ((key, value) :: fields, rest)
        | '\x7d' :: rest => some ([(key, value)], rest)
        | _ => none
      | _ => none
    | _ => none

end

/-- The value that characters write, with nothing but blanks around it. -/
def readChars? (text : List Char) : Option Json := do
  let (value, rest) ← readValue (text.length + 1) (skipBlanks text)
  guard (skipBlanks rest).isEmpty
  return value

/-- The value a text writes. -/
def read? (text : String) : Option Json := readChars? text.toList

end DeviceAuth.Json
