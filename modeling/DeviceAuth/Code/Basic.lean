import DeviceAuth.Checksum
import DeviceAuth.Core
import DeviceAuth.Text.Base32

/-!
# Activation and recovery codes

A code carries ten random octets and their checksum in Base32, written in four groups of five with
dashes between them. A recovery code may stand behind a mark. `Code.encode` writes the code of ten
octets; a text is a code exactly when it is written that way.
-/

set_option autoImplicit false

namespace DeviceAuth

namespace Code

open Text

/-- Characters of a code. -/
def length : Nat := 23

/-- Random octets a code carries. -/
def randomSize : Nat := 10

/-- Digits of the key that goes with a recovery code. -/
def pukLength : Nat := 10

/-- What may stand before a recovery code. -/
def recoveryMark : String := "R:"

/-- Whether a character is a symbol of a code. -/
def isSymbol (c : Char) : Bool := ('A' ≤ c && c ≤ 'Z') || ('2' ≤ c && c ≤ '7')

/-- Twenty symbols in four groups with dashes between them. -/
def grouped (symbols : List Char) : List Char :=
  symbols.take 5 ++ '-' :: (symbols.drop 5).take 5 ++ '-' :: (symbols.drop 10).take 5
    ++ '-' :: symbols.drop 15

/-- The code of ten octets. -/
def encode (random : Octets 10) : String :=
  String.ofList (grouped (Base32.alphabet.spell (random.bytes ++ Checksum.octets random.bytes)))

/-- The twenty symbols of a text that has the form of a code. -/
def symbols? (text : String) : Option (List Char) :=
  let symbols := text.toList.filter isSymbol
  if symbols.length = 20 ∧ grouped symbols = text.toList then some symbols else none

/-- The ten octets of a code with a valid checksum. -/
def random? (text : String) : Option (Octets 10) := do
  let bytes ← Base32.alphabet.read? (← symbols? text)
  let random ← Octets.ofBytes? (bytes.take 10)
  guard (bytes.drop 10 = Checksum.octets random.bytes)
  return random

/-- Whether a text is an activation code. -/
def isActivation (text : String) : Bool := (random? text).isSome

/-- A recovery code without its mark. -/
def unmarked (text : String) : String :=
  match recoveryMark.toList.isPrefixOf? text.toList with
  | some rest => String.ofList rest
  | none => text

/-- Whether a text is a recovery code. -/
def isRecovery (text : String) : Bool := isActivation (unmarked text)

/-- The key that goes with a recovery code is ten decimal digits. -/
def isPuk (text : String) : Bool := text.toList.length == pukLength && text.toList.all Char.isDigit

/-- Log that a text has the form of a code but spells no octets. -/
def trace (text : String) : Core Unit := do
  match symbols? text with
  | some symbols => if (Base32.alphabet.read? symbols).isNone then Core.note (.failed .base32)
  | none => pure ()

/-- Check an activation code. -/
def checkActivation (text : String) : Core Bool := do
  trace text
  return isActivation text

/-- Check a recovery code. -/
def checkRecovery (text : String) : Core Bool := checkActivation (unmarked text)

/-- A recovery code without its mark, if it is one. -/
def parseRecovery (text : String) : Core String := do
  if ← checkRecovery text then return unmarked text
  else Core.wrongParameter .recoveryCode

/-! ## Typing -/

/-- What a typed character becomes: letters are raised, and two digits that are no symbols are taken
for the letters they look like. -/
def corrected? (c : Char) : Option Char :=
  if 'a' ≤ c ∧ c ≤ 'z' then some c.toUpper
  else if c = '0' then some 'O'
  else if c = '1' then some 'I'
  else if isSymbol c then some c
  else none

/-- A typed character or separator corrected. -/
def correctChar (c : Char) : Except Failure Char :=
  if c = '-' then .ok '-'
  else
    match corrected? c with
    | some symbol => .ok symbol
    | none => .error (.wrongParameter (.typedCharacter c))

/-- A typed text corrected. -/
def correct (text : String) : Except Failure String :=
  (text.toList.mapM correctChar).map String.ofList

end Code

end DeviceAuth
