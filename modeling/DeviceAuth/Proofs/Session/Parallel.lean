import DeviceAuth.Proofs.Session.Atomicity

/-!
# Two sessions side by side

An operation reads the settings of a session and its stage, and writes the stage. `Change.Agree` says
that two operations, each on a session of its own, end alike: with the same answer, in the same
surroundings and in the same stage. It passes from the steps of an operation to the operation, so
whether two sessions are told apart is a question about the few steps that read a setting.

`Session.under` is a session with another external encryption key. There is one place where an operation
asks for that key, `Session.externalFor`, and a record that does not use it gets the same answer in both
sessions. Every operation but the commitment of an activation therefore agrees with itself on them
(`Operation.agree_run`).
-/

set_option autoImplicit false

namespace DeviceAuth

/-! ## Operations that end alike -/

theorem Session.same_at {s t : Session} {stage : Stage} :
    (t.at stage).stage = (s.at stage).stage := rfl

theorem Session.at_of_same {s t : Session} (same : t.stage = s.stage) : t.at s.stage = t := by
  rw [← same]
  rfl

/-- A check that both sides pass or fail is followed by what they do when it passed. -/
theorem Core.checked_bind_congr {α β : Type} {x : Except Failure α} {f g : α → Core β}
    (h : ∀ v, x = .ok v → f v = g v) : (liftM x >>= f : Core β) = liftM x >>= g := by
  cases x with
  | error e => rfl
  | ok v => exact h v rfl

namespace Change

variable {α β : Type} {s t : Session}

/-- Two operations end alike, each on its session, and touch nothing there but the stage. -/
def Agree (x y : Change Session α) (s t : Session) : Prop :=
  ∀ a, ∃ r stage a', x.result s a = ((r, s.at stage), a') ∧ y.result t a = ((r, t.at stage), a')

theorem agree_liftM (same : t.stage = s.stage) (x : Core α) :
    Agree (liftM x : Change Session α) (liftM x) s t := by
  intro a
  have right : (liftM x : Change Session α).result t a
      = (((x.result a).1, t.at s.stage), (x.result a).2) := by
    rw [Session.at_of_same same]
    rfl
  exact ⟨_, s.stage, _, rfl, right⟩

theorem agree_pure (same : t.stage = s.stage) (v : α) :
    Agree (pure v : Change Session α) (pure v) s t :=
  agree_liftM same (pure v : Core α)

theorem agree_enter (stage : Stage) (s t : Session) :
    Agree (Session.enter stage) (Session.enter stage) s t :=
  fun a => ⟨.ok (), stage, a, rfl, rfl⟩

theorem agree_setRecord (record : Record) (s t : Session) :
    Agree (Session.setRecord record) (Session.setRecord record) s t :=
  agree_enter _ s t

/-- **A sequence agrees** when its parts do, the second in whatever stage the first may end. -/
theorem Agree.bind {x y : Change Session α} {f g : α → Change Session β} (first : Agree x y s t)
    (rest : ∀ v stage, Agree (f v) (g v) (s.at stage) (t.at stage)) :
    Agree (x >>= f) (y >>= g) s t := by
  intro a
  obtain ⟨r, stage, a₁, left, right⟩ := first a
  rw [result_bind, result_bind, left, right]
  cases r with
  | error e => exact ⟨.error e, stage, a₁, rfl, rfl⟩
  | ok v => exact rest v stage a₁

theorem Agree.map {x y : Change Session α} (h : Agree x y s t) (f : α → β) :
    Agree (f <$> x) (f <$> y) s t := by
  rw [map_eq_pure_bind, map_eq_pure_bind]
  exact h.bind fun v _ => agree_pure Session.same_at (f v)

theorem agree_object_bind {f g : Session → Change Session β} (h : Agree (f s) (g t) s t) :
    Agree (object >>= f) (object >>= g) s t := h

/-- A step that both take alike, and that leaves the sessions alone, is followed by the rest. -/
theorem agree_liftM_bind (same : t.stage = s.stage) (x : Core α) {f g : α → Change Session β}
    (rest : ∀ v, Agree (f v) (g v) s t) : Agree (liftM x >>= f) (liftM x >>= g) s t := by
  intro a
  have left : (liftM x : Change Session α).result s a = (((x.result a).1, s), (x.result a).2) := rfl
  have right : (liftM x : Change Session α).result t a = (((x.result a).1, t), (x.result a).2) := rfl
  rw [result_bind, result_bind, left, right]
  rcases x.result a with ⟨e | v, a₁⟩
  · refine ⟨.error e, s.stage, a₁, rfl, ?_⟩
    rw [Session.at_of_same same]
  · exact rest v a₁

theorem agree_checked_bind (same : t.stage = s.stage) (x : Except Failure α)
    {f g : α → Change Session β} (rest : ∀ v, x = .ok v → Agree (f v) (g v) s t) :
    Agree (liftM x >>= f) (liftM x >>= g) s t := by
  cases x with
  | error e =>
    intro a
    refine ⟨.error e, s.stage, a, rfl, ?_⟩
    rw [Session.at_of_same same]
    rfl
  | ok v => exact rest v rfl

theorem agree_reasoned_bind (same : t.stage = s.stage) (x : Except Reason α)
    {f g : α → Change Session β} (rest : ∀ v, Agree (f v) (g v) s t) :
    Agree (liftM x >>= f) (liftM x >>= g) s t :=
  agree_liftM_bind same (liftM x : Core α) rest

theorem agree_ite {c : Prop} [Decidable c] {x x' y y' : Change Session α} (h : Agree x y s t)
    (h' : Agree x' y' s t) : Agree (if c then x else x') (if c then y else y') s t := by
  split
  · exact h
  · exact h'

theorem Agree.unless {c : Prop} [Decidable c] {x y : Change Session α} (h : Agree x y s t)
    (same : t.stage = s.stage) (refused : Core Unit) :
    Agree (if c then x else liftM refused >>= fun _ => x)
      (if c then y else liftM refused >>= fun _ => y) s t :=
  agree_ite h (agree_liftM_bind same refused fun _ => h)

theorem Agree.when {c : Prop} [Decidable c] {x y : Change Session α} (h : Agree x y s t)
    (same : t.stage = s.stage) (refused : Core Unit) :
    Agree (if c then liftM refused >>= fun _ => x else x)
      (if c then liftM refused >>= fun _ => y else y) s t :=
  agree_ite (agree_liftM_bind same refused fun _ => h) h

theorem agree_ask {question : Session → Core α} (same : t.stage = s.stage)
    (asked : question t = question s) :
    Agree (Session.ask question) (Session.ask question) s t := by
  refine agree_object_bind ?_
  rw [asked]
  exact agree_liftM same (question s)

end Change

/-! ## Operations that read the stage alone -/

namespace Session

open Change

variable {s t : Session}

theorem activeRecord_of_same (same : t.stage = s.stage) : t.activeRecord = s.activeRecord := by
  unfold activeRecord
  rw [same]

theorem agree_remove (same : t.stage = s.stage) : Agree remove remove s t := by
  refine agree_object_bind ?_
  rw [same]
  cases s.stage with
  | activated record => exact agree_liftM_bind same _ fun _ => agree_enter _ s t
  | removed => exact agree_pure same ()
  | _ => exact agree_liftM same _

theorem agree_applyStatus (same : t.stage = s.stage) (status : Status) :
    Agree (applyStatus status) (applyStatus status) s t := by
  refine agree_object_bind ?_
  rw [same]
  cases s.stage with
  | activated record =>
    cases status.state with
    | active => exact (agree_setRecord _ s t).when same _
    | blocked => exact (agree_setRecord _ s t).unless same _
    | removed => exact agree_liftM_bind same _ fun _ => agree_enter _ s t
    | created => exact agree_liftM same _
    | pendingCommit => exact agree_liftM same _
  | _ => exact agree_liftM same _

theorem agree_upgrade (same : t.stage = s.stage) (data : UpgradeData) :
    Agree (upgrade data) (upgrade data) s t := by
  refine agree_object_bind ?_
  rw [activeRecord_of_same same]
  refine agree_checked_bind same _ fun record _ => Agree.when ?_ same _
  refine agree_reasoned_bind same _ fun counter => ?_
  exact (agree_setRecord _ s t).bind fun _ _ => agree_liftM same_at _

theorem agree_removeBiometry (same : t.stage = s.stage) :
    Agree removeBiometry removeBiometry s t := by
  refine agree_object_bind ?_
  rw [activeRecord_of_same same]
  refine agree_checked_bind same _ fun record _ => ?_
  refine (agree_setRecord _ s t).bind fun _ _ => ?_
  exact agree_ite (agree_liftM same_at _) (agree_pure same_at ())

end Session

/-! ## Another external encryption key -/

/-- A session that was given another external encryption key, or none. -/
def Session.under (s : Session) (bytes : Option Bytes) (external : Option SymmetricKey) : Session :=
  { s with setup := { s.setup with externalKey := bytes }, external }

/-- The activation of a session, if it has one, does without the external encryption key. -/
def Session.Plain (s : Session) : Prop :=
  ∀ record, s.stage = .activated record → record.usesExternal = false

namespace Session

open Change

variable {s : Session} {record : Record} {bytes : Option Bytes} {external : Option SymmetricKey}

@[simp] theorem under_stage : (s.under bytes external).stage = s.stage := rfl

theorem Plain.of_active (plain : s.Plain) (active : s.activeRecord = .ok record) :
    record.usesExternal = false :=
  plain record (activeRecord_eq_ok_iff.1 active).1

theorem Plain.of_committed (plain : s.Plain) (committed : s.committedRecord = .ok record) :
    record.usesExternal = false :=
  plain record (committedRecord_eq_ok_iff.1 committed)

/-! ### Keys -/

/-- A record that does not use the external encryption key is opened without it in every session. -/
theorem externalFor_of_plain (plain : record.usesExternal = false) (s : Session) :
    s.externalFor record = .ok none := by
  unfold externalFor
  rw [plain]
  rfl

theorem unlockSignatureKeys_under (plain : record.usesExternal = false) (keys : UnlockKeys)
    (factor : SignatureFactor) :
    (s.under bytes external).unlockSignatureKeys record keys factor
      = s.unlockSignatureKeys record keys factor := by
  unfold unlockSignatureKeys
  rw [externalFor_of_plain plain, externalFor_of_plain plain]

theorem unlockTransportKey_under (plain : record.usesExternal = false) (keys : UnlockKeys) :
    (s.under bytes external).unlockTransportKey record keys = s.unlockTransportKey record keys := by
  unfold unlockTransportKey
  rw [externalFor_of_plain plain, externalFor_of_plain plain]

/-! ### Activation -/

theorem agree_start (recovery : Option RecoveryData) {t : Session} (same : t.stage = s.stage) :
    Agree (start recovery) (start recovery) s t := by
  refine agree_liftM_bind same _ fun pair => ?_
  refine (agree_enter _ s t).bind fun _ _ => ?_
  exact agree_liftM_bind same_at _ fun _ => agree_pure same_at _

theorem agree_begin (code : Option ActivationCode) :
    Agree (begin code) (begin code) s (s.under bytes external) := by
  refine agree_object_bind (agree_checked_bind under_stage s.requireEmpty fun _ _ => ?_)
  cases code with
  | some code =>
    exact agree_liftM_bind under_stage (s.checkCode code) fun _ => agree_start none under_stage
  | none => exact agree_start none under_stage

theorem agree_beginRecovery (code puk : String) :
    Agree (beginRecovery code puk) (beginRecovery code puk) s (s.under bytes external) := by
  refine agree_object_bind (agree_checked_bind under_stage s.requireEmpty fun _ _ => ?_)
  refine agree_liftM_bind under_stage _ fun code => ?_
  exact (agree_start _ under_stage).unless under_stage _

theorem agree_establish (answer : ActivationAnswer) :
    Agree (establish answer) (establish answer) s (s.under bytes external) := by
  have same : (s.under bytes external).stage = s.stage := under_stage
  refine agree_object_bind ?_
  rw [same]
  cases s.stage with
  | begun pair recovery =>
    refine Agree.when (agree_liftM_bind same _ fun _ => ?_) same _
    refine agree_reasoned_bind same _ fun keyBytes => ?_
    refine agree_reasoned_bind same _ fun serverKey => ?_
    refine agree_reasoned_bind same _ fun counterData => ?_
    refine Agree.when ?_ same _
    refine (agree_enter _ s _).bind fun _ _ => ?_
    exact agree_liftM_bind same_at _ fun _ => agree_pure same_at _
  | _ => exact agree_liftM same _

theorem agree_reset : Agree reset reset s (s.under bytes external) :=
  agree_object_bind ((agree_enter _ s _).bind fun _ _ => agree_liftM same_at _)

/-! ### Signing -/

theorem agree_sign (plain : s.Plain) (request : Request) (keys : UnlockKeys)
    (factor : SignatureFactor) :
    Agree (sign request keys factor) (sign request keys factor) s (s.under bytes external) := by
  have same : (s.under bytes external).stage = s.stage := under_stage
  refine agree_object_bind (agree_checked_bind same s.activeRecord fun record active => ?_)
  rw [unlockSignatureKeys_under (plain.of_active active)]
  refine agree_checked_bind same _ fun counter _ => ?_
  refine agree_checked_bind same _ fun _ _ => Agree.when ?_ same _
  refine agree_liftM_bind same _ fun factorKeys => ?_
  refine agree_liftM_bind same _ fun drawn => ?_
  refine agree_checked_bind same _ fun value _ => ?_
  refine (agree_setRecord _ s _).bind fun _ _ => ?_
  exact agree_liftM_bind same_at _ fun _ => agree_pure same_at _

theorem agree_requestVault (plain : s.Plain) (request : Request) (keys : UnlockKeys)
    (factor : SignatureFactor) :
    Agree (requestVault request keys factor) (requestVault request keys factor) s
      (s.under bytes external) := by
  refine agree_object_bind (agree_checked_bind under_stage s.activeRecord fun _ _ => ?_)
  exact ((agree_sign plain request keys factor).map _).when under_stage _

theorem agree_confirmRecovery (plain : s.Plain) (code : String) (keys : UnlockKeys)
    (factor : SignatureFactor) :
    Agree (confirmRecovery code keys factor) (confirmRecovery code keys factor) s
      (s.under bytes external) := by
  have same : (s.under bytes external).stage = s.stage := under_stage
  refine agree_object_bind (agree_checked_bind same s.activeRecord fun _ _ => ?_)
  refine agree_liftM_bind same _ fun code => Agree.when ?_ same _
  refine (agree_sign plain _ keys factor).bind fun signature stage => ?_
  refine agree_object_bind (agree_checked_bind same_at (s.at stage).activeRecord fun record _ => ?_)
  refine (agree_setRecord _ _ _).bind fun _ _ => agree_ite (agree_pure same_at _) ?_
  exact agree_liftM_bind same_at _ fun _ => agree_pure same_at _

theorem signOffline_under (plain : s.Plain) (request : Request) (keys : UnlockKeys)
    (factor : SignatureFactor) :
    (s.under bytes external).signOffline request keys factor = s.signOffline request keys factor := by
  refine Core.checked_bind_congr (x := s.activeRecord) fun record active => ?_
  rw [unlockSignatureKeys_under (plain.of_active active)]

/-! ### Keeping -/

theorem decodeStatus_under (plain : s.Plain) (encrypted : EncryptedStatus) (keys : UnlockKeys) :
    (s.under bytes external).decodeStatus encrypted keys = s.decodeStatus encrypted keys := by
  refine Core.checked_bind_congr (x := s.committedRecord) fun record committed => ?_
  rw [unlockTransportKey_under (plain.of_committed committed)]

theorem agree_deserialize (state : Bytes) :
    Agree (deserialize state) (deserialize state) s (s.under bytes external) := by
  refine agree_reasoned_bind under_stage _ fun stored => ?_
  exact (agree_enter _ s _).bind fun _ _ => agree_liftM same_at _

theorem agree_changePassword (plain : s.Plain) (old new : Password) :
    Agree (changePassword old new) (changePassword old new) s (s.under bytes external) := by
  have same : (s.under bytes external).stage = s.stage := under_stage
  refine agree_object_bind (agree_checked_bind same s.activeRecord fun record active => ?_)
  rw [externalFor_of_plain (plain.of_active active), externalFor_of_plain (plain.of_active active)]
  refine Agree.unless (agree_checked_bind same _ fun outside _ => ?_) same _
  refine agree_liftM_bind same _ fun knowledge => ?_
  refine agree_liftM_bind same _ fun salt => ?_
  refine agree_checked_bind same _ fun lock _ => ?_
  refine agree_liftM_bind same _ fun stored => ?_
  exact (agree_setRecord _ s _).bind fun _ _ => agree_liftM same_at _

theorem agree_storeBiometry (plain : s.Plain) (key lock : SymmetricKey) :
    Agree (storeBiometry key lock) (storeBiometry key lock) s (s.under bytes external) := by
  have same : (s.under bytes external).stage = s.stage := under_stage
  refine agree_object_bind (agree_checked_bind same s.activeRecord fun record active => ?_)
  rw [externalFor_of_plain (plain.of_active active), externalFor_of_plain (plain.of_active active)]
  refine agree_checked_bind same _ fun outside _ => ?_
  refine agree_liftM_bind same _ fun stored => ?_
  exact (agree_setRecord _ s _).bind fun _ _ => agree_liftM same_at _

theorem encryptor_under (plain : s.Plain) (scope : Scope) (keys : UnlockKeys) (info1 : Bytes) :
    (s.under bytes external).encryptor scope keys info1 = s.encryptor scope keys info1 := by
  cases scope with
  | application => rfl
  | activation =>
    refine Core.checked_bind_congr (x := s.activeRecord) fun record active => ?_
    rw [unlockTransportKey_under (plain.of_active active)]
    rfl

end Session

namespace Vault

open Change

variable {s : Session} {bytes : Option Bytes} {external : Option SymmetricKey}

/-! ### Vaults -/

theorem unlock_under (plain : s.Plain) (authorization : VaultAuthorization) (keys : UnlockKeys)
    (encryptedKey : String) :
    unlock (s.under bytes external) authorization keys encryptedKey
      = unlock s authorization keys encryptedKey := by
  refine Core.checked_bind_congr (x := s.activeRecord) fun record active => ?_
  rw [Session.unlockSignatureKeys_under (plain.of_active active),
    Session.unlockTransportKey_under (plain.of_active active)]

theorem agree_addBiometry (plain : s.Plain) (vault : Vault) (keys : UnlockKeys) :
    Agree (vault.addBiometry keys) (vault.addBiometry keys) s (s.under bytes external) := by
  have same : (s.under bytes external).stage = s.stage := Session.under_stage
  refine agree_object_bind (agree_checked_bind same s.activeRecord fun record _ => ?_)
  refine Agree.when ?_ same _
  refine agree_checked_bind same _ fun _ _ => ?_
  refine agree_checked_bind same _ fun lock _ => ?_
  refine agree_reasoned_bind same _ fun serverKey => ?_
  exact Session.agree_storeBiometry plain _ lock

end Vault

/-! ## All of them -/

/-- Whether an operation stores the keys of a new activation, which then uses the external encryption
key if there is one. -/
def Operation.commits : Operation → Bool
  | commit _ => true
  | _ => false

/-- **An activation that does without the external encryption key does without it everywhere.** Every
operation but a commitment ends alike whichever such key a session has. -/
theorem Operation.agree_run (op : Operation) (stores : op.commits = false) {s : Session}
    (plain : s.Plain) (bytes : Option Bytes) (external : Option SymmetricKey) :
    Change.Agree op.run op.run s (s.under bytes external) := by
  have same : (s.under bytes external).stage = s.stage := Session.under_stage
  cases op with
  | begin code => exact (Session.agree_begin code).map _
  | beginRecovery code puk => exact (Session.agree_beginRecovery code puk).map _
  | establish answer => exact (Session.agree_establish answer).map _
  | commit keys => cases stores
  | remove => exact (Session.agree_remove same).map _
  | reset => exact Session.agree_reset.map _
  | sign request keys factor => exact (Session.agree_sign plain request keys factor).map _
  | requestVault request keys factor =>
    exact (Session.agree_requestVault plain request keys factor).map _
  | confirmRecovery code keys factor =>
    exact (Session.agree_confirmRecovery plain code keys factor).map _
  | applyStatus status => exact (Session.agree_applyStatus same status).map _
  | upgrade data => exact (Session.agree_upgrade same data).map _
  | deserialize state => exact (Session.agree_deserialize state).map _
  | changePassword old new => exact (Session.agree_changePassword plain old new).map _
  | removeBiometry => exact (Session.agree_removeBiometry same).map _
  | addBiometry vault keys => exact (Vault.agree_addBiometry plain vault keys).map _
  | serialize => exact (Change.agree_ask same rfl).map _
  | signOffline request keys factor =>
    exact (Change.agree_ask same (Session.signOffline_under plain request keys factor)).map _
  | decodeStatus encrypted keys =>
    exact (Change.agree_ask same (Session.decodeStatus_under plain encrypted keys)).map _
  | unlockVault authorization keys encryptedKey =>
    exact (Change.agree_ask same (Vault.unlock_under plain authorization keys encryptedKey)).map _
  | deriveOnce authorization keys encryptedKey index =>
    refine (Change.agree_ask same ?_).map _
    unfold Vault.deriveOnce
    rw [Vault.unlock_under plain]
  | verifySigned signed => exact (Change.agree_ask same rfl).map _
  | encryptor scope keys info1 =>
    exact (Change.agree_ask same (Session.encryptor_under plain scope keys info1)).map _

end DeviceAuth
