import DeviceAuth.Kdf

/-!
# Unlocking

What an application hands over to reach the stored keys for one operation: the possession key of the
device, perhaps a biometry key, perhaps the user's password. A key that is handed over must be one,
whether the operation needs it or not.
-/

set_option autoImplicit false

namespace DeviceAuth

/-- A password, as the octets that are stretched. -/
structure Password where
  bytes : Bytes
deriving DecidableEq

namespace Password

/-- The shortest password that is accepted for a new lock, in octets. -/
def leastLength : Nat := 4

/-- The password of a text. -/
def ofText (text : String) : Password := ⟨Bytes.ofText text⟩

/-- Whether a password is long enough. -/
def isAcceptable (password : Password) : Bool := leastLength ≤ password.bytes.length

/-- The description of a password, whatever it is. -/
def describe (_ : Password) : String := "Password([REDACTED])"

end Password

/-- The keys for one operation. -/
structure UnlockKeys where
  possession : Option Bytes := none
  biometry : Option Bytes := none
  password : Option Password := none
deriving DecidableEq

namespace UnlockKeys

/-- An unlock key must have sixteen octets, not all of them zero. -/
def checkKey (role : KeyRole) (bytes : Bytes) : Except Failure SymmetricKey :=
  match Octets.ofBytes? bytes with
  | none => .error (.wrongParameter (.unlockKeySize role))
  | some key =>
    if key.isZero then .error (.wrongParameter (.unlockKeyZero role)) else .ok key

/-- A key that may be missing. -/
def checkGiven (role : KeyRole) : Option Bytes → Except Failure (Option SymmetricKey)
  | none => .ok none
  | some bytes => (checkKey role bytes).map some

/-- A key that must be there. -/
def require (role : KeyRole) (given : Option Bytes) : Except Failure SymmetricKey :=
  match given with
  | some bytes => checkKey role bytes
  | none => .error (.wrongParameter (.unlockKeyMissing role))

/-- Refuse any malformed key. -/
def validate (keys : UnlockKeys) : Except Failure Unit := do
  let _ ← checkGiven .possession keys.possession
  let _ ← checkGiven .biometry keys.biometry

/-- The password, which must be there. -/
def requirePassword (keys : UnlockKeys) : Except Failure Password :=
  match keys.password with
  | some password => .ok password
  | none => .error (.wrongParameter .passwordMissing)

/-- The description of unlock keys: which of them are there. -/
def describe (keys : UnlockKeys) : String :=
  Text.Description.record "SignatureUnlockKeys"
    [("possession", Text.Description.bool keys.possession.isSome),
     ("biometry", Text.Description.bool keys.biometry.isSome),
     ("password", Text.Description.bool keys.password.isSome)]

end UnlockKeys

end DeviceAuth
