import DeviceAuth.Failure

/-!
# Signature factors

A signature proves possession of the device, and on top of that knowledge of the password, a
biometry key, or both. Possession is always part of the combination, so there are four.
-/

set_option autoImplicit false

namespace DeviceAuth

/-- A combination of factors a signature is made with. -/
inductive SignatureFactor where
  | possession
  | possessionKnowledge
  | possessionBiometry
  | possessionKnowledgeBiometry
deriving DecidableEq, Repr

namespace SignatureFactor

instance : Named SignatureFactor where
  all := [possession, possessionKnowledge, possessionBiometry, possessionKnowledgeBiometry]
  name
    | possession => "Possession"
    | possessionKnowledge => "PossessionKnowledge"
    | possessionBiometry => "PossessionBiometry"
    | possessionKnowledgeBiometry => "PossessionKnowledgeBiometry"

/-- Whether the password takes part. -/
def usesKnowledge : SignatureFactor → Bool
  | possession => false
  | possessionKnowledge => true
  | possessionBiometry => false
  | possessionKnowledgeBiometry => true

/-- Whether the biometry key takes part. -/
def usesBiometry : SignatureFactor → Bool
  | possession => false
  | possessionKnowledge => false
  | possessionBiometry => true
  | possessionKnowledgeBiometry => true

/-- The mask of a combination: one for possession, two for knowledge, four for biometry. -/
def bits (factor : SignatureFactor) : Nat :=
  1 + (if factor.usesKnowledge then 2 else 0) + (if factor.usesBiometry then 4 else 0)

/-- The combination with this mask. -/
def ofBits (mask : Nat) : Except Failure SignatureFactor :=
  match (Named.all : List SignatureFactor).find? fun factor => factor.bits = mask with
  | some factor => .ok factor
  | none => .error (.wrongParameter (.factors mask))

/-- How many factors take part. -/
def count (factor : SignatureFactor) : Nat :=
  1 + (if factor.usesKnowledge then 1 else 0) + (if factor.usesBiometry then 1 else 0)

/-- The name of the combination in a header. -/
def header : SignatureFactor → String
  | possession => "possession"
  | possessionKnowledge => "possession_knowledge"
  | possessionBiometry => "possession_biometry"
  | possessionKnowledgeBiometry => "possession_knowledge_biometry"

end SignatureFactor

end DeviceAuth
