import DeviceAuth.Session.Activation
import DeviceAuth.Session.Upkeep

/-!
# Bindings

How the library is called from another language. A text comes in as octets that end before the first
zero octet, or not at all; a session may be missing. A text goes out if it holds no zero character.
No call fails: what went wrong is part of the result.
-/

set_option autoImplicit false

namespace DeviceAuth.Binding

/-- The result of a call. -/
structure Outcome where
  success : Bool
  code : ResultCode
  message : Option String
  data : Option String
deriving DecidableEq

/-- The text in some octets, which end before the first zero. -/
def incoming? (octets : Option Bytes) : Option String :=
  octets.bind fun bytes => Bytes.text? (bytes.takeWhile (· ≠ 0))

/-- A text to hand out; one with a zero character cannot be. -/
def outgoing? (text : String) : Option String :=
  if text.toList.contains '\x00' then none else some text

namespace Outcome

/-- Success with data. -/
def ok (data : String) : Outcome := ⟨true, .ok, none, outgoing? data⟩

/-- Success without data. -/
def done : Outcome := ⟨true, .ok, none, none⟩

/-- Failure with a message. -/
def failed (code : ResultCode) (message : String) : Outcome :=
  ⟨false, code, outgoing? message, none⟩

/-- A failure of the core. -/
def ofFailure (failure : Failure) : Outcome := failed failure.code failure.message

/-- A result of the core. -/
def ofResult : Except Failure String → Outcome
  | .ok data => ok data
  | .error failure => ofFailure failure

/-- A result of the core that carries no value. -/
def ofUnit : Except Failure Unit → Outcome
  | .ok () => done
  | .error failure => ofFailure failure

/-- What a call on a missing session gives. -/
def noSession : Outcome := failed .wrongParameter "Session is null"

/-- What restoring a missing state gives. -/
def noState : Outcome := failed .wrongParameter "State is missing"

end Outcome

/-- Check a text that came in; a missing one passes no check. -/
def check (test : String → Core Bool) (octets : Option Bytes) : Core Bool :=
  match incoming? octets with
  | some text => test text
  | none => pure false

/-- The symbol that a typed code point becomes, or zero. -/
def correctedPoint (point : Nat) : Nat :=
  if h : point.isValidChar then
    match Code.corrected? (Char.ofNatAux point h) with
    | some c => c.toNat
    | none => 0
  else 0

/-- The setup in a JSON text. -/
def setupOf (text : String) : Except Failure Setup :=
  match Json.decode? text with
  | some setup => .ok setup
  | none => .error (.wrongParameter .setupEncoding)

/-- A session for the setup in a JSON text. -/
def create (octets : Option Bytes) : Core (Option Session) := do
  match incoming? octets with
  | none => return none
  | some text =>
    try
      let session ← Session.create (← setupOf text)
      Core.note (.sessionCreated session.setup.identifier.toNat)
      return some session
    catch failure =>
      Core.note (.creationFailed failure)
      return none

/-- The number of a session's phase. -/
def phaseNumber : Option Session → Int
  | some s => s.phase.number
  | none => -1

/-- The fingerprint of a session's activation. -/
def fingerprint : Option Session → Outcome
  | some s =>
    match s.fingerprint? with
    | some text => .ok text
    | none => .ofFailure (.wrongState .noActivation)
  | none => .noSession

/-- The stored form of a session, in Base64. -/
def serialize : Option Session → Outcome
  | some s => .ok (Text.Base64.encode s.serialize)
  | none => .noSession

/-- Restore a state that was stored. -/
def deserialize (octets : Option Bytes) : Change Session Outcome := do
  match incoming? octets with
  | none => return .noState
  | some text =>
    try
      let bytes ← (Text.Base64.decode text : Except Reason Bytes)
      Session.deserialize bytes
      return .done
    catch failure => return .ofFailure failure

end DeviceAuth.Binding
