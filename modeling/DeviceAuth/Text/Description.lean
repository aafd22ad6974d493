import DeviceAuth.Bytes
import DeviceAuth.Text.Quoted

/-!
# Descriptions

Every value an integrator may log has a description: its type's name and its fields in order. A
field that holds a secret is described by `redacted`, whatever it holds, so a description is a
function of the public fields alone.
-/

set_option autoImplicit false

namespace DeviceAuth.Text

/-- What stands in a description for a secret. -/
def redacted : String := quoted "[REDACTED]"

namespace Description

/-- A value with named fields. -/
def record (name : String) (fields : List (String × String)) : String :=
  name ++ " \x7b " ++ ", ".intercalate (fields.map fun f => f.1 ++ ": " ++ f.2) ++ " \x7d"

/-- A constructor with one argument. -/
def apply (name argument : String) : String := name ++ "(" ++ argument ++ ")"

/-- A value that may be missing, given the description of one that is there. -/
def option {α : Type} (describe : α → String) : Option α → String
  | none => "None"
  | some x => apply "Some" (describe x)

/-- A truth value. -/
def bool (b : Bool) : String := if b then "true" else "false"

/-- A string of octets, in decimal. -/
def bytes (bs : Bytes) : String := "[" ++ ", ".intercalate (bs.map fun b => toString b.toNat) ++ "]"

end Description

end DeviceAuth.Text
