import DeviceAuth.Bytes

/-!
# Entropy

All random octets come from one stream: some octets that are given, then the words of a SplitMix64
generator, most significant octet first. A draw takes exactly the octets it returns, so the stream
is a value, and everything random is a function of it.
-/

set_option autoImplicit false

namespace DeviceAuth

/-- A stream of octets. -/
structure Entropy where
  /-- The octets that come next. -/
  queued : Bytes
  /-- The state of the generator that continues them. -/
  state : UInt64
deriving DecidableEq

namespace Entropy

/-- The generator's word at a state. -/
def word (state : UInt64) : UInt64 :=
  let z := (state ^^^ (state >>> 30)) * 0xBF58476D1CE4E5B9
  let z := (z ^^^ (z >>> 27)) * 0x94D049BB133111EB
  z ^^^ (z >>> 31)

/-- The octets of the next `count` words, and the state after them. -/
def generate : Nat → UInt64 → Bytes × UInt64
  | 0, state => ([], state)
  | count + 1, state =>
    let state := state + 0x9E3779B97F4A7C15
    let rest := generate count state
    (Bytes.bigEndian 8 (word state).toNat ++ rest.1, rest.2)

@[simp] theorem length_generate (count : Nat) (state : UInt64) :
    (generate count state).1.length = 8 * count := by
  induction count generalizing state with
  | zero => rfl
  | succ count ih => simp [generate, ih]; omega

/-- The next `n` octets, and the stream after them. -/
def draw (n : Nat) (stream : Entropy) : Octets n × Entropy :=
  let fresh := generate ((n - stream.queued.length + 7) / 8) stream.state
  let octets := stream.queued ++ fresh.1
  (⟨octets.take n, by simp [octets, fresh]; omega⟩, ⟨octets.drop n, fresh.2⟩)

end Entropy

end DeviceAuth
