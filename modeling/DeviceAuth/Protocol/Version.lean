import DeviceAuth.Named

/-!
# Protocol versions

Version 2 counts signatures with a number, version 3 with a hash chain. New activations are always
version 3; a version 2 activation is only ever restored, and moved forward by an upgrade.
-/

set_option autoImplicit false

namespace DeviceAuth

/-- A version of the protocol. -/
inductive ProtocolVersion where
  | v2
  | v3
deriving DecidableEq, Repr

namespace ProtocolVersion

instance : Named ProtocolVersion where
  all := [v2, v3]
  name
    | v2 => "V2"
    | v3 => "V3"

/-- The latest version. -/
def latest : ProtocolVersion := v3

/-- The number before the point. -/
def major : ProtocolVersion → Nat
  | v2 => 2
  | v3 => 3

/-- The version with this number before the point. -/
def ofMajor? (n : Nat) : Option ProtocolVersion := [v2, v3].find? fun v => v.major = n

/-- How the version is written in a header. -/
def header : ProtocolVersion → String
  | v2 => "2.1"
  | v3 => "3.1"

end ProtocolVersion

end DeviceAuth
