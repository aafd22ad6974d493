/-!
# Named alternatives

The protocol has many small choices: a version, a factor combination, a state. Each is written by
its name in descriptions and in JSON. `Named` lists the alternatives of such a type once, and both
directions follow from the list.
-/

set_option autoImplicit false

namespace DeviceAuth

/-- A type with finitely many alternatives, each with a name of its own. -/
class Named (α : Type) where
  /-- Every alternative, in order of declaration. -/
  all : List α
  /-- The name of an alternative. -/
  name : α → String

namespace Named

variable {α : Type} [Named α]

/-- The alternative with this name. -/
def ofName? (text : String) : Option α := all.find? fun a => name a = text

end Named

end DeviceAuth
