import DeviceAuth.Text.Quoted

/-!
# Text on a terminal

A name from outside may hold characters that a terminal obeys instead of showing: it could move the
cursor, change colours or hide what stands before it. A text meant for a terminal has those written
out. Line breaks, tabs and the controls that terminals ignore stay, since they steer nothing.
-/

set_option autoImplicit false

namespace DeviceAuth.Text

/-- Whether a character is one of the ASCII controls that a terminal obeys: bell, backspace, form
feed, escape and delete. -/
def isTerminalControl (c : Char) : Bool := ['\x07', '\x08', '\x0c', '\x1b', '\x7f'].contains c

/-- Whether a character is one of the controls beyond ASCII, each of which stands for an escape and
a letter. -/
def isHighControl (c : Char) : Bool := 0x80 ≤ c.toNat && c.toNat ≤ 0x9f

/-- One character of a text on a terminal: a control is named by its octet in two hexadecimal
digits, or beyond ASCII by its code point. -/
def terminalChar (c : Char) : List Char :=
  if isTerminalControl c then ['\\', 'x'] ++ hexDigits (c.toNat / 16) ++ hexDigits (c.toNat % 16)
  else if isHighControl c then pointEscape c
  else [c]

/-- A text with everything written out that a terminal would obey. -/
def forTerminal (text : String) : String := String.ofList (text.toList.flatMap terminalChar)

end DeviceAuth.Text
