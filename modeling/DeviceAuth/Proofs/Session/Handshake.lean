import DeviceAuth.Proofs.Curve.Key
import DeviceAuth.Proofs.Session.Transition

/-!
# An activation that goes well

The three steps of an activation, read forwards. A step is refused for the session it is called on or
for what it is given, never for what it draws: an empty session begins, a begun one takes the answer
of any server that has a key, and an established one is committed under any acceptable unlock keys.
What each step leaves is said exactly, except for the octets it draws.
-/

set_option autoImplicit false

namespace DeviceAuth

variable {s : Session}

/-! ## First step -/

theorem Session.requireEmpty_of_empty (empty : s.stage = .empty) : s.requireEmpty = .ok () := by
  unfold requireEmpty
  rw [empty]

/-- The key pair depends on nothing but what surrounds the session. -/
theorem Session.exists_gives_start (a : Ambient) :
    ∃ pair : KeyPair, ∀ (s : Session) (recovery : Option RecoveryData),
      ∃ a', (Session.start recovery).Gives s a
        ⟨pair.publicKey.base64, recovery.map RecoveryData.identity⟩ (s.at (.begun pair recovery)) a' := by
  obtain ⟨pair, a₁, drawn⟩ := KeyPair.sure_generate a
  refine ⟨pair, fun s recovery => ?_⟩
  unfold Session.start
  simp
  exact ⟨pair, ⟨a₁, drawn⟩, rfl, rfl⟩

/-- An empty session begins without a code. -/
theorem Session.exists_gives_begin (empty : s.stage = .empty) (a : Ambient) :
    ∃ pair a', (Session.begin none).Gives s a ⟨pair.publicKey.base64, none⟩
      (s.at (.begun pair none)) a' := by
  obtain ⟨pair, started⟩ := exists_gives_start a
  obtain ⟨a', started⟩ := started s none
  have allowed := requireEmpty_of_empty empty
  exact ⟨pair, a', Change.gives_object_bind.2 (Change.gives_checked_bind.2 ⟨(), allowed, started⟩)⟩

/-! ## Second step -/

/-- The answer of a server with a key pair of its own. -/
def ActivationAnswer.ofServer (server : KeyPair) (id : String) (counterData : Octets 16)
    (recovery : Option RecoveryData) : ActivationAnswer :=
  ⟨id, server.publicKey.base64, Text.Base64.encode counterData.bytes, recovery⟩

/-- Recovery data that an answer may bring along. -/
def RecoveryData.IsValid (data : RecoveryData) : Prop :=
  Code.isRecovery data.code = true ∧ Code.isPuk data.puk = true

theorem Session.exists_gives_checkRecoveryData {recovery : Option RecoveryData}
    (valid : ∀ data, recovery = some data → data.IsValid) (a : Ambient) :
    ∃ a', (checkRecoveryData recovery).Gives a () a' := by
  cases recovery with
  | none => exact ⟨a, Core.gives_pure.2 ⟨rfl, rfl⟩⟩
  | some data =>
    obtain ⟨code, puk⟩ := valid data rfl
    obtain ⟨u, a', traced⟩ := Code.sure_trace (Code.unmarked data.code) a
    have isCode : Code.isActivation (Code.unmarked data.code) = true := code
    refine ⟨a', ?_⟩
    unfold checkRecoveryData Code.checkRecovery Code.checkActivation
    simp [isCode, puk]
    exact traced

/-- A begun session takes the answer of any server. -/
theorem Session.exists_gives_establish {pair : KeyPair} {own recovery : Option RecoveryData}
    {id : String} (server : KeyPair) (counterData : Octets 16) (begun : s.stage = .begun pair own)
    (named : id ≠ "") (valid : ∀ data, recovery = some data → data.IsValid) (a : Ambient) :
    ∃ a', (establish (.ofServer server id counterData recovery)).Gives s a
      ⟨fingerprint pair.publicKey.bytes id server.publicKey.bytes, recovery⟩
      (s.at (.established (exchange pair (.ofServer server id counterData recovery)
        server.publicKey counterData))) a' := by
  obtain ⟨a₁, checked⟩ := exists_gives_checkRecoveryData valid a
  unfold establish
  simp [begun, ActivationAnswer.ofServer, named]
  cases own with
  | none => exact ⟨_, (), a₁, checked, rfl⟩
  | some data => exact ⟨_, (), a₁, checked, rfl⟩

/-! ## Third step -/

/-- The factor keys are stored, whatever is drawn for them. -/
theorem Session.sure_storeKeys (master : SymmetricKey) (locks : Session.Locks)
    (external : Option SymmetricKey) : (storeKeys master locks external).Sure := by
  refine (Core.sure_draw 16).bind fun salt => ?_
  have locked :
      (liftM (Kdf.passwordLock locks.password.bytes salt.bytes) : Core SymmetricKey).Sure := by
    have long : ¬salt.bytes.length < 8 := by
      rw [salt.length_eq]
      decide
    exact fun a => ⟨_, a, Core.gives_liftM_checked.2 ⟨if_neg long, rfl⟩⟩
  refine locked.bind fun lock => ?_
  cases locks.biometry with
  | none =>
    refine (Core.sure_pure none).bind fun biometry => ?_
    refine (StoredKey.sure_protect _ _ _).bind fun possession => ?_
    refine (StoredKey.sure_protect _ _ _).bind fun knowledge => ?_
    exact (StoredKey.sure_protect _ _ _).bind fun transport => Core.sure_pure _
  | some own =>
    refine ((StoredKey.sure_protect _ _ _).map some).bind fun biometry => ?_
    refine (StoredKey.sure_protect _ _ _).bind fun possession => ?_
    refine (StoredKey.sure_protect _ _ _).bind fun knowledge => ?_
    exact (StoredKey.sure_protect _ _ _).bind fun transport => Core.sure_pure _

/-- An established session is committed under any acceptable unlock keys. -/
theorem Session.exists_gives_commit {h : Handshake} {keys : UnlockKeys} {locks : Session.Locks}
    (established : s.stage = .established h) (accepted : Session.locks keys = .ok locks)
    (a : Ambient) : ∃ s' a', (commit keys).Gives s a () s' a' := by
  obtain ⟨stored, a₁, kept⟩ := sure_storeKeys h.master locks s.external a
  unfold commit
  simp [established, accepted]
  exact ⟨stored, a₁, kept⟩

/-- A commitment leaves an activation that can be used, with a counter that never runs out. -/
theorem Session.exists_activeRecord_of_commit {s' : Session} {keys : UnlockKeys} {u : Unit}
    {a a' : Ambient} (committed : (commit keys).Gives s a u s' a') :
    ∃ record data, s'.activeRecord = .ok record ∧ record.counter = .hashed data := by
  cases Transition.of_commit committed with
  | committed established accepted kept => exact ⟨_, _, rfl, rfl⟩
  | observed observes => cases observes

/-- Both steps of a key exchange, as calls. -/
theorem Session.exists_after_exchange {recovery : Option RecoveryData} {id : String}
    (server : KeyPair) (counterData : Octets 16) (empty : s.stage = .empty) (named : id ≠ "")
    (valid : ∀ data, recovery = some data → data.IsValid) (a₁ a₂ : Ambient) :
    ∃ pair, s.after [⟨.begin none, a₁⟩, ⟨.establish (.ofServer server id counterData recovery), a₂⟩]
      = s.at (.established (exchange pair (.ofServer server id counterData recovery)
        server.publicKey counterData)) := by
  obtain ⟨pair, _, begun⟩ := exists_gives_begin empty a₁
  have asked : (Operation.begin none).run.Gives s a₁ _ _ _ := Change.gives_map.2 ⟨_, begun, rfl⟩
  obtain ⟨_, established⟩ := exists_gives_establish server counterData
    (s.at_stage (.begun pair none)) named valid a₂
  have answered :
      (Operation.establish (.ofServer server id counterData recovery)).run.Gives _ a₂ _ _ _ :=
    Change.gives_map.2 ⟨_, established, rfl⟩
  refine ⟨pair, ?_⟩
  rw [after_cons_of_gives asked, after_cons_of_gives answered]
  rfl

end DeviceAuth
