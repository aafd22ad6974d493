import DeviceAuth.Entropy
import DeviceAuth.Log

/-!
# Effects of the core

The core reads two things that are not arguments, random octets and the clock, and writes one that
is no result, the log. `Ambient` holds the three, and an operation of the core is a computation in
`Core`: it may draw, read the time, log, and fail.

A failure keeps what was drawn and logged before it. Pure code that can go wrong for a
cryptographic reason returns that reason; in `Core` the reason is logged and the failure is
`encryption`, whatever it was.

An operation that changes an object of type `σ` is a `Change σ`. Its failure keeps the object as it
stood at that moment: that nothing was changed by then is no consequence of the type, but has to be
so of each operation.
-/

set_option autoImplicit false

namespace DeviceAuth

/-- What surrounds an operation. -/
structure Ambient where
  /-- Random octets to come. -/
  entropy : Entropy
  /-- Milliseconds since the epoch. -/
  clock : Int
  /-- What was logged, latest first. -/
  log : List Event := []

/-- An operation of the core. -/
abbrev Core := ExceptT Failure (StateM Ambient)

namespace Core

variable {α : Type}

/-- Log an event. -/
def note (event : Event) : Core Unit := modify fun a => { a with log := event :: a.log }

/-- Draw `n` random octets. -/
def draw (n : Nat) : Core (Octets n) :=
  modifyGet fun a =>
    let drawn := a.entropy.draw n
    (drawn.1, { a with entropy := drawn.2 })

/-- The time. -/
def now : Core Int := return (← get).clock

/-- Fail for a cryptographic reason, which only the log is told. -/
def refuse (why : Reason) : Core α := do
  note (.failed why)
  throw .encryption

/-- Fail because the state does not allow the operation. -/
def wrongState (why : StateFault) : Core α := throw (.wrongState why)

/-- Fail because of an argument. -/
def wrongParameter (why : ParameterFault) : Core α := throw (.wrongParameter why)

/-- A pure result in the core: a reason is logged, and the failure is cryptographic. -/
def ofReasoned : Except Reason α → Core α
  | .ok a => pure a
  | .error why => refuse why

instance : MonadLift (Except Reason) Core := ⟨ofReasoned⟩

end Core

/-- An operation of the core that may change an object. -/
abbrev Change (σ : Type) := ExceptT Failure (StateT σ (StateM Ambient))

namespace Change

variable {α σ : Type}

/-- An operation that leaves the object alone. -/
def ofCore (x : Core α) : Change σ α := fun s a =>
  let done := x.run a
  ((done.1, s), done.2)

instance : MonadLift Core (Change σ) := ⟨ofCore⟩

/-- The object as it is. -/
def object : Change σ σ := fun s => pure (.ok s, s)

/-- Put another object in its place. -/
def become (s : σ) : Change σ Unit := fun _ => pure (.ok (), s)

/-- Perform an operation on an object. -/
def perform (x : Change σ α) (s : σ) : StateM Ambient (Except Failure α × σ) := x.run.run s

end Change

end DeviceAuth
