import DeviceAuth.Proofs.Text.Quoted
import DeviceAuth.Session.Activation
import DeviceAuth.Token
import DeviceAuth.Vault

/-!
# What a description tells of the secrets in a value

Whatever holds a secret has a description that an application may log. Two values are alike when they
differ in nothing but secrets: in passwords and unlock keys, in private and symmetric keys and what is
wrapped under them, in the external encryption key, the application secret and the secret of a token, in
the data of a hash-based counter, in recovery codes and their keys and the digests of them. What they
agree in is public: identifiers, public keys, flags, and whether an optional part is there.

`Holder` ranges over all such values. Alike values have one description (`Holder.describe_eq_iff`), with
one exception, the answer to the first step of an activation: its identity attributes are a text made of
the recovery code and its key, and they are shown like any other text.
-/

set_option autoImplicit false

namespace DeviceAuth

/-! ## Values that differ in secrets only -/

/-- Alike setups. -/
structure Setup.Alike (x y : Setup) : Prop where
  applicationKey : x.applicationKey = y.applicationKey
  masterKey : x.masterKey = y.masterKey
  identifier : x.identifier = y.identifier
  externalKey : x.externalKey.isSome = y.externalKey.isSome

/-- Alike counters: the data of a hash-based one is a secret. -/
inductive Counter.Alike : Counter → Counter → Prop
  | linear (value : UInt64) : Alike (.linear value) (.linear value)
  | hashed (x y : Octets 16) : Alike (.hashed x) (.hashed y)

/-- Alike records. -/
structure Record.Alike (x y : Record) : Prop where
  activationId : x.activationId = y.activationId
  serverKey : x.serverKey = y.serverKey
  deviceKey : x.deviceKey = y.deviceKey
  biometry : x.hasBiometry = y.hasBiometry
  counter : x.counter.Alike y.counter
  usesExternal : x.usesExternal = y.usesExternal
  blocked : x.blocked = y.blocked

/-- Alike outcomes of a key exchange. -/
structure Handshake.Alike (x y : Handshake) : Prop where
  deviceKey : x.pair.publicKey = y.pair.publicKey
  activationId : x.activationId = y.activationId
  serverKey : x.serverKey = y.serverKey

/-- Alike stages. -/
inductive Stage.Alike : Stage → Stage → Prop
  | empty : Alike .empty .empty
  | begun {pair pair' : KeyPair} {recovery recovery' : Option RecoveryData}
      (deviceKey : pair.publicKey = pair'.publicKey)
      (kind : recovery.isSome = recovery'.isSome) :
    Alike (.begun pair recovery) (.begun pair' recovery')
  | established {h h' : Handshake} (alike : h.Alike h') : Alike (.established h) (.established h')
  | activated {record record' : Record} (alike : record.Alike record') :
    Alike (.activated record) (.activated record')
  | removed : Alike .removed .removed

/-- Alike sessions. -/
structure Session.Alike (x y : Session) : Prop where
  setup : x.setup.Alike y.setup
  masterKey : x.masterKey = y.masterKey
  external : x.external.isSome = y.external.isSome
  stage : x.stage.Alike y.stage

/-- Alike unlock keys: the same ones are there. -/
structure UnlockKeys.Alike (x y : UnlockKeys) : Prop where
  possession : x.possession.isSome = y.possession.isSome
  biometry : x.biometry.isSome = y.biometry.isSome
  password : x.password.isSome = y.password.isSome

/-- Alike data of a token. -/
structure TokenData.Alike (x y : TokenData) : Prop where
  name : x.name = y.name
  identifier : x.identifier = y.identifier

/-- Alike vaults: all but the activation is a secret of the vault. -/
structure Vault.Alike (x y : Vault) : Prop where
  activationId : x.activationId = y.activationId

/-- Alike answers to the first step: the identity attributes are made of recovery data. -/
structure ActivationRequest.Alike (x y : ActivationRequest) : Prop where
  deviceKey : x.deviceKey = y.deviceKey
  kind : x.identity.isSome = y.identity.isSome

/-- Alike answers to the second step. -/
structure ActivationOutcome.Alike (x y : ActivationOutcome) : Prop where
  fingerprint : x.fingerprint = y.fingerprint
  recovery : x.recovery.isSome = y.recovery.isSome

/-- Alike encryptors: the second shared information is derived from the application secret. -/
structure Encryptor.Alike (x y : Encryptor) : Prop where
  publicKey : x.publicKey = y.publicKey
  info1 : x.info1 = y.info1
  ready : x.isReady = y.isReady

/-- A value that holds secrets. A handle to a token is described together with the stores there are. -/
inductive Holder where
  | session (s : Session)
  | setup (setup : Setup)
  | record (record : Record)
  | counter (counter : Counter)
  | key (key : SymmetricKey)
  | password (password : Password)
  | unlockKeys (keys : UnlockKeys)
  | recovery (data : RecoveryData)
  | tokenData (data : TokenData)
  | token (token : Token) (all : TokenStores)
  | vault (vault : Vault)
  | request (request : ActivationRequest)
  | outcome (outcome : ActivationOutcome)
  | encryptor (encryptor : Encryptor)

namespace Holder

/-- The description of a value. -/
def describe : Holder → String
  | session s => s.describe
  | setup x => x.describe
  | record x => x.describe
  | counter x => x.describe
  | key x => x.describe
  | password x => x.describe
  | unlockKeys x => x.describe
  | recovery x => x.describe
  | tokenData x => x.describe
  | token x all => x.describe all
  | vault x => x.describe
  | request x => x.describe
  | outcome x => x.describe
  | encryptor x => x.describe

/-- Two values differ in secrets only. -/
inductive Alike : Holder → Holder → Prop
  | session {s t : Session} (alike : s.Alike t) : Alike (.session s) (.session t)
  | setup {x y : Setup} (alike : x.Alike y) : Alike (.setup x) (.setup y)
  | record {x y : Record} (alike : x.Alike y) : Alike (.record x) (.record y)
  | counter {x y : Counter} (alike : x.Alike y) : Alike (.counter x) (.counter y)
  | key (x y : SymmetricKey) : Alike (.key x) (.key y)
  | password (x y : Password) : Alike (.password x) (.password y)
  | unlockKeys {x y : UnlockKeys} (alike : x.Alike y) : Alike (.unlockKeys x) (.unlockKeys y)
  | recovery (x y : RecoveryData) : Alike (.recovery x) (.recovery y)
  | tokenData {x y : TokenData} (alike : x.Alike y) : Alike (.tokenData x) (.tokenData y)
  | token {x y : Token} {all all' : TokenStores} (alike : x.data.Alike y.data)
      (alive : (all.get? x.store).isSome = (all'.get? y.store).isSome) :
    Alike (.token x all) (.token y all')
  | vault {x y : Vault} (alike : x.Alike y) : Alike (.vault x) (.vault y)
  | request {x y : ActivationRequest} (alike : x.Alike y) : Alike (.request x) (.request y)
  | outcome {x y : ActivationOutcome} (alike : x.Alike y) : Alike (.outcome x) (.outcome y)
  | encryptor {x y : Encryptor} (alike : x.Alike y) : Alike (.encryptor x) (.encryptor y)

/-- The text made of secrets that the description of a value shows, if it shows one. -/
def exposed : Holder → Option String
  | request x => x.identity
  | _ => none

end Holder

/-! ## Descriptions of alike values -/

namespace Text.Description

/-- Missing or not, a value whose description is always the same has the description of any other. -/
theorem option_eq_of_isSome {α : Type} {describe : α → String} {x y : Option α}
    (same : x.isSome = y.isSome) (blind : ∀ a b, describe a = describe b) :
    option describe x = option describe y := by
  cases x <;> cases y
  · rfl
  · cases same
  · cases same
  · exact congrArg (apply "Some") (blind _ _)

theorem option_quoted_inj {x y : Option String} : option quoted x = option quoted y ↔ x = y := by
  constructor
  · intro same
    cases x with
    | none =>
      cases y with
      | none => rfl
      | some y => exact absurd (congrArg (fun text => text.toList.head?) same) (by simp [option, apply])
    | some x =>
      cases y with
      | none => exact absurd (congrArg (fun text => text.toList.head?) same) (by simp [option, apply])
      | some y =>
        simp only [option, apply, String.append_left_inj, String.append_right_inj] at same
        rw [quoted_inj.1 same]
  · rintro rfl
    rfl

/-- A record of two fields that agrees with another in the first tells the second. -/
theorem record_pair_inj {name first second shown text text' : String} :
    record name [(first, shown), (second, text)] = record name [(first, shown), (second, text')]
      ↔ text = text' := by
  change name ++ " \x7b " ++ (first ++ ": " ++ shown ++ ", " ++ (second ++ ": " ++ text)) ++ " \x7d"
    = name ++ " \x7b " ++ (first ++ ": " ++ shown ++ ", " ++ (second ++ ": " ++ text')) ++ " \x7d" ↔ _
  simp only [String.append_left_inj, String.append_right_inj]

end Text.Description

theorem Setup.Alike.describe_eq {x y : Setup} (alike : x.Alike y) : x.describe = y.describe := by
  have external : Text.Description.option (fun _ => Text.redacted) x.externalKey
      = Text.Description.option (fun _ => Text.redacted) y.externalKey :=
    Text.Description.option_eq_of_isSome alike.externalKey fun _ _ => rfl
  unfold describe
  rw [alike.applicationKey, alike.masterKey, alike.identifier, external]

theorem Counter.Alike.describe_eq {x y : Counter} (alike : x.Alike y) : x.describe = y.describe := by
  cases alike <;> rfl

theorem Record.Alike.describe_eq {x y : Record} (alike : x.Alike y) : x.describe = y.describe := by
  unfold describe
  rw [alike.activationId, alike.counter.describe_eq, alike.usesExternal, alike.blocked, alike.biometry]

theorem Session.Alike.phase_eq {s t : Session} (alike : s.Alike t) : s.phase = t.phase := by
  have stages := alike.stage
  unfold phase
  revert stages
  generalize s.stage = x, t.stage = y
  rintro (_ | _ | _ | same | _)
  case activated => simp [Stage.phase, same.blocked]
  all_goals rfl

theorem Session.Alike.activationId?_eq {s t : Session} (alike : s.Alike t) :
    s.activationId? = t.activationId? := by
  have stages := alike.stage
  unfold activationId?
  revert stages
  generalize s.stage = x, t.stage = y
  rintro (_ | _ | same | same | _)
  case established => exact congrArg some same.activationId
  case activated => exact congrArg some same.activationId
  all_goals rfl

theorem Session.Alike.describe_eq {s t : Session} (alike : s.Alike t) : s.describe = t.describe := by
  unfold describe
  rw [alike.setup.identifier, alike.phase_eq, alike.activationId?_eq]

theorem UnlockKeys.Alike.describe_eq {x y : UnlockKeys} (alike : x.Alike y) :
    x.describe = y.describe := by
  unfold describe
  rw [alike.possession, alike.biometry, alike.password]

theorem TokenData.Alike.describe_eq {x y : TokenData} (alike : x.Alike y) :
    x.describe = y.describe := by
  unfold describe
  rw [alike.name, alike.identifier]

theorem Vault.Alike.describe_eq {x y : Vault} (alike : x.Alike y) : x.describe = y.describe := by
  unfold describe
  rw [alike.activationId]

theorem ActivationOutcome.Alike.describe_eq {x y : ActivationOutcome} (alike : x.Alike y) :
    x.describe = y.describe := by
  unfold describe
  rw [alike.fingerprint, Text.Description.option_eq_of_isSome alike.recovery fun _ _ => rfl]

theorem Encryptor.Alike.describe_eq {x y : Encryptor} (alike : x.Alike y) :
    x.describe = y.describe := by
  unfold describe
  rw [alike.publicKey, alike.ready]

/-- The answer to a first step shows its identity attributes. -/
theorem ActivationRequest.describe_eq_iff {x y : ActivationRequest} (same : x.deviceKey = y.deviceKey) :
    x.describe = y.describe ↔ x.identity = y.identity := by
  unfold describe
  rw [same, Text.Description.record_pair_inj, Text.Description.option_quoted_inj]

/-- **The description of a value depends on no secret in it**, but for the identity attributes of a
recovery activation. -/
theorem Holder.Alike.describe_eq_iff {x y : Holder} (alike : x.Alike y) :
    x.describe = y.describe ↔ x.exposed = y.exposed := by
  cases alike with
  | request alike => exact ActivationRequest.describe_eq_iff alike.deviceKey
  | token alike alive =>
    refine iff_of_true ?_ rfl
    unfold describe Token.describe
    dsimp only
    rw [alike.name, alike.identifier, alive]
  | key | password | recovery => exact iff_of_true rfl rfl
  | session alike => exact iff_of_true alike.describe_eq rfl
  | setup alike => exact iff_of_true alike.describe_eq rfl
  | record alike => exact iff_of_true alike.describe_eq rfl
  | counter alike => exact iff_of_true alike.describe_eq rfl
  | unlockKeys alike => exact iff_of_true alike.describe_eq rfl
  | tokenData alike => exact iff_of_true alike.describe_eq rfl
  | vault alike => exact iff_of_true alike.describe_eq rfl
  | outcome alike => exact iff_of_true alike.describe_eq rfl
  | encryptor alike => exact iff_of_true alike.describe_eq rfl

end DeviceAuth
