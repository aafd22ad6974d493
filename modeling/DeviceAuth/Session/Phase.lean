import DeviceAuth.Named

/-!
# Phases of an activation

Where a session stands, as an application sees it. A phase is reached from the one before it, and
the only ways back are a reset and a restored state.
-/

set_option autoImplicit false

namespace DeviceAuth

/-- Where a session stands. -/
inductive Phase where
  | empty
  | pendingStep1
  | pendingStep2
  | active
  | blocked
  | removed
deriving DecidableEq, Repr

namespace Phase

instance : Named Phase where
  all := [empty, pendingStep1, pendingStep2, active, blocked, removed]
  name
    | empty => "Empty"
    | pendingStep1 => "PendingStep1"
    | pendingStep2 => "PendingStep2"
    | active => "Active"
    | blocked => "Blocked"
    | removed => "Removed"

/-- The number of a phase at the binding. -/
def number : Phase → Nat
  | empty => 0
  | pendingStep1 => 1
  | pendingStep2 => 2
  | active => 3
  | blocked => 4
  | removed => 5

end Phase

end DeviceAuth
