import DeviceAuth.Protocol.Version

/-!
# The build

What the library says about itself.
-/

set_option autoImplicit false

namespace DeviceAuth.Build

/-- The version of the library. -/
def version : String := "0.1.0"

/-- The system it is built for. -/
def target : String := "linux"

/-- The latest protocol it speaks. -/
def protocol : String := ProtocolVersion.latest.header

end DeviceAuth.Build
