import DeviceAuth.Proofs.Session.Transition

/-!
# A failed operation leaves no trace

Every operation on a session looks and computes first, and changes the session when nothing can go
wrong any more. `Change.Atomic` is that discipline, and each operation below has it for the reason
its own text shows: a run of steps that leave the session alone, and then steps that cannot fail.

Confirming a recovery code is the one operation that goes on after a change. It signs, which stores
the next counter, and then looks for the active record once more. That look succeeds because of what
signing has just stored.
-/

set_option autoImplicit false

namespace DeviceAuth

open Change

namespace Session

theorem sureAt_enter (stage : Stage) (s : Session) : (enter stage).SureAt s :=
  sureAt_object.bind fun _ _ _ _ _ => sureAt_become _

theorem sureAt_setRecord (record : Record) (s : Session) : (setRecord record).SureAt s :=
  sureAt_enter _ s

theorem still_ask {α : Type} (question : Session → Core α) : (ask question).Still := fun _ _ => rfl

/-! ## Activation -/

theorem atomic_start (recovery : Option RecoveryData) : (start recovery).Atomic := by
  refine (still_liftM _).bind_atomic fun pair => atomic_of_sureAt fun s => ?_
  refine (sureAt_enter _ s).bind fun _ _ _ _ _ => ?_
  exact (sureAt_note _).bind fun _ _ _ _ _ => sureAt_pure _

theorem atomic_begin (code : Option ActivationCode) : (begin code).Atomic := by
  refine still_object.bind_atomic fun s => (still_liftM_checked _).bind_atomic fun _ => ?_
  cases code with
  | some code => exact (still_liftM _).bind_atomic fun _ => atomic_start none
  | none => exact (still_pure ()).bind_atomic fun _ => atomic_start none

theorem atomic_beginRecovery (code puk : String) : (beginRecovery code puk).Atomic := by
  refine still_object.bind_atomic fun s => (still_liftM_checked _).bind_atomic fun _ => ?_
  refine (still_liftM _).bind_atomic fun code => ?_
  exact Atomic.unless _ (atomic_start _)

theorem atomic_establish (answer : ActivationAnswer) : (establish answer).Atomic := by
  refine still_object.bind_atomic fun s => ?_
  cases s.stage with
  | begun pair recovery =>
    have rest : ∀ serverKey counterData outcome event, (do
        enter (.established (exchange pair answer serverKey counterData))
        Core.note event
        return outcome : Change Session ActivationOutcome).Atomic := by
      intro serverKey counterData outcome event
      refine atomic_of_sureAt fun s => (sureAt_enter _ s).bind fun _ _ _ _ _ => ?_
      exact (sureAt_note _).bind fun _ _ _ _ _ => sureAt_pure _
    refine Atomic.when _ ((still_liftM _).bind_atomic fun _ => ?_)
    refine (still_liftM_reasoned _).bind_atomic fun keyBytes => ?_
    refine (still_liftM_reasoned _).bind_atomic fun serverKey => ?_
    refine (still_liftM_reasoned _).bind_atomic fun counterData => ?_
    exact Atomic.when _ (rest _ _ _ _)
  | _ => exact (still_liftM _).atomic

theorem atomic_commit (keys : UnlockKeys) : (commit keys).Atomic := by
  refine still_object.bind_atomic fun s => ?_
  cases s.stage with
  | established h =>
    refine (still_liftM_checked _).bind_atomic fun locks => ?_
    refine (still_liftM _).bind_atomic fun stored => ?_
    refine (still_liftM _).bind_atomic fun devicePrivate => ?_
    exact SureAt.note_before (sureAt_enter _) _
  | _ => exact (still_liftM _).atomic

theorem atomic_remove : remove.Atomic := by
  refine still_object.bind_atomic fun s => ?_
  cases s.stage with
  | activated record => exact SureAt.note_before (sureAt_enter _) _
  | removed => exact (still_pure ()).atomic
  | _ => exact (still_liftM _).atomic

theorem atomic_reset : reset.Atomic :=
  still_object.bind_atomic fun _ => SureAt.note_after (sureAt_enter _) _

/-! ## Signing -/

theorem atomic_sign (request : Request) (keys : UnlockKeys) (factor : SignatureFactor) :
    (sign request keys factor).Atomic := by
  refine still_object.bind_atomic fun s => ?_
  refine (still_liftM_checked _).bind_atomic fun record => ?_
  refine (still_liftM_checked _).bind_atomic fun counter => ?_
  refine (still_liftM_checked _).bind_atomic fun _ => Atomic.when _ ?_
  refine (still_liftM _).bind_atomic fun factorKeys => ?_
  refine (still_liftM _).bind_atomic fun drawn => ?_
  refine (still_liftM_checked _).bind_atomic fun value => atomic_of_sureAt fun t => ?_
  refine (sureAt_setRecord _ t).bind fun _ _ _ _ _ => ?_
  exact (sureAt_note _).bind fun _ _ _ _ _ => sureAt_pure _

theorem atomic_requestVault (request : Request) (keys : UnlockKeys) (factor : SignatureFactor) :
    (requestVault request keys factor).Atomic := by
  refine still_object.bind_atomic fun s => (still_liftM_checked _).bind_atomic fun _ => ?_
  exact Atomic.when _ ((atomic_sign request keys factor).map _)

/-- What signing leaves behind is active. -/
theorem activeRecord_of_sign {request : Request} {keys : UnlockKeys} {factor : SignatureFactor}
    {s s' : Session} {a a' : Ambient} {signature : RequestSignature}
    (h : (sign request keys factor).Gives s a signature s' a') :
    ∃ record, s'.activeRecord = .ok record := by
  obtain ⟨record, counter, signs, rfl⟩ := signs_of_gives h
  have usable := (activeRecord_eq_ok_iff.1 signs.active).2
  exact ⟨{ record with counter }, activeRecord_eq_ok_iff.2 ⟨rfl, usable⟩⟩

theorem atomic_confirmRecovery (code : String) (keys : UnlockKeys) (factor : SignatureFactor) :
    (confirmRecovery code keys factor).Atomic := by
  refine still_object.bind_atomic fun s => (still_liftM_checked _).bind_atomic fun _ => ?_
  refine (still_liftM _).bind_atomic fun code => Atomic.when _ ?_
  -- From here on the session has changed, so nothing may fail any more.
  refine (atomic_sign _ keys factor).bind fun t a signature t' a' signed => Or.inr ?_
  obtain ⟨record, active⟩ := activeRecord_of_sign signed
  refine sureAt_object.bind fun _ found _ _ looked => ?_
  obtain ⟨rfl, rfl, rfl⟩ := gives_object.1 looked
  refine (sureAt_liftM_ok active).bind fun _ record' _ _ _ => ?_
  refine (sureAt_setRecord _ _).bind fun _ _ _ _ _ => sureAt_ite (sureAt_pure _) ?_
  exact (sureAt_note _).bind fun _ _ _ _ _ => sureAt_pure _

/-! ## Keeping -/

theorem atomic_applyStatus (status : Status) : (applyStatus status).Atomic := by
  refine still_object.bind_atomic fun s => ?_
  cases s.stage with
  | activated record =>
    cases status.state with
    | active => exact Atomic.when _ (atomic_of_sureAt (sureAt_setRecord _))
    | blocked => exact Atomic.unless _ (atomic_of_sureAt (sureAt_setRecord _))
    | removed => exact SureAt.note_before (sureAt_enter _) _
    | created => exact (still_liftM _).atomic
    | pendingCommit => exact (still_liftM _).atomic
  | _ => exact (still_liftM _).atomic

theorem atomic_upgrade (data : UpgradeData) : (upgrade data).Atomic := by
  refine still_object.bind_atomic fun s => (still_liftM_checked _).bind_atomic fun record => ?_
  refine Atomic.when _ ((still_liftM_reasoned _).bind_atomic fun counter => ?_)
  exact SureAt.note_after (sureAt_setRecord _) _

theorem atomic_deserialize (bytes : Bytes) : (deserialize bytes).Atomic :=
  (still_liftM_reasoned _).bind_atomic fun _ => SureAt.note_after (sureAt_enter _) _

theorem atomic_changePassword (old new : Password) : (changePassword old new).Atomic := by
  refine still_object.bind_atomic fun s => (still_liftM_checked _).bind_atomic fun record => ?_
  refine Atomic.unless _ ((still_liftM_checked _).bind_atomic fun external => ?_)
  refine (still_liftM _).bind_atomic fun knowledge => ?_
  refine (still_liftM _).bind_atomic fun salt => ?_
  refine (still_liftM_checked _).bind_atomic fun lock => ?_
  refine (still_liftM _).bind_atomic fun stored => ?_
  exact SureAt.note_after (sureAt_setRecord _) _

theorem atomic_removeBiometry : removeBiometry.Atomic := by
  refine still_object.bind_atomic fun s => (still_liftM_checked _).bind_atomic fun record => ?_
  refine atomic_of_sureAt fun s => (sureAt_setRecord _ s).bind fun _ _ _ _ _ => ?_
  exact sureAt_ite (sureAt_note _) (sureAt_pure _)

theorem atomic_storeBiometry (key lock : SymmetricKey) : (storeBiometry key lock).Atomic := by
  refine still_object.bind_atomic fun s => (still_liftM_checked _).bind_atomic fun record => ?_
  refine (still_liftM_checked _).bind_atomic fun external => ?_
  refine (still_liftM _).bind_atomic fun stored => ?_
  exact SureAt.note_after (sureAt_setRecord _) _

theorem atomic_addBiometry (vault : Vault) (keys : UnlockKeys) : (vault.addBiometry keys).Atomic := by
  refine still_object.bind_atomic fun s => (still_liftM_checked _).bind_atomic fun record => ?_
  refine Atomic.when _ ((still_liftM_checked _).bind_atomic fun _ => ?_)
  refine (still_liftM_checked _).bind_atomic fun lock => ?_
  refine (still_liftM_reasoned _).bind_atomic fun serverKey => ?_
  exact atomic_storeBiometry _ lock

end Session

/-! ## All of them -/

/-- Every operation is atomic. -/
theorem Operation.atomic_run (op : Operation) : op.run.Atomic := by
  cases op with
  | begin code => exact (Session.atomic_begin code).map _
  | beginRecovery code puk => exact (Session.atomic_beginRecovery code puk).map _
  | establish answer => exact (Session.atomic_establish answer).map _
  | commit keys => exact (Session.atomic_commit keys).map _
  | remove => exact Session.atomic_remove.map _
  | reset => exact Session.atomic_reset.map _
  | sign request keys factor => exact (Session.atomic_sign request keys factor).map _
  | requestVault request keys factor => exact (Session.atomic_requestVault request keys factor).map _
  | confirmRecovery code keys factor => exact (Session.atomic_confirmRecovery code keys factor).map _
  | applyStatus status => exact (Session.atomic_applyStatus status).map _
  | upgrade data => exact (Session.atomic_upgrade data).map _
  | deserialize bytes => exact (Session.atomic_deserialize bytes).map _
  | changePassword old new => exact (Session.atomic_changePassword old new).map _
  | removeBiometry => exact Session.atomic_removeBiometry.map _
  | addBiometry vault keys => exact (Session.atomic_addBiometry vault keys).map _
  | _ => exact (Session.still_ask _).atomic.map _

/-- **A failed operation leaves the session as it was**, whatever the session held, whatever the
operation was given and whatever surrounded it. -/
theorem Operation.session_eq_of_error {op : Operation} {s s' : Session} {a a' : Ambient}
    {e : Failure} (h : op.run.result s a = ((.error e, s'), a')) : s' = s :=
  op.atomic_run s a e s' a' h

/-- A lock key of sixteen ones. -/
def SymmetricKey.ones : SymmetricKey := ⟨List.replicate 16 1, rfl⟩

/-- A version 2 activation at some value of its counter, with the possession key under the lock key
of ones. -/
def Session.counting (value : UInt64) : Session where
  setup := ⟨"application", "secret", KeyPair.unit.publicKey.base64, 1, none⟩
  masterKey := KeyPair.unit.publicKey
  external := none
  stage := .activated
    { activationId := "activation"
      serverKey := KeyPair.unit.publicKey.bytes
      deviceKey := KeyPair.unit.publicKey.bytes
      devicePrivate := []
      keys := ⟨.enclosed .ones .ones none .zero .zero, ⟨[]⟩, none, ⟨[]⟩, []⟩
      counter := .linear value
      usesExternal := false
      blocked := false
      boundCode := none
      confirmedCodes := [] }

/-- A request for the vault key that comes after the last counter value fails, and what it leaves is
what it found. -/
theorem Operation.counting_eq_of_requestVault :
    let s := Session.counting (UInt64.ofNat (UInt64.size - 1))
    let a : Ambient := ⟨⟨[], 7⟩, 0, []⟩
    let op : Operation := .requestVault ⟨"POST", "/vault/unlock", [], none⟩ {} .possessionKnowledge
    (op.run.result s a).1.1 = .error (.wrongState .counterExhausted) ∧ (op.run.result s a).1.2 = s :=
  ⟨rfl, session_eq_of_error (Prod.ext (Prod.ext rfl rfl) rfl)⟩

/-! ## Invariants -/

/-- A call either makes a transition or changes nothing. -/
theorem Call.transition_or_unchanged (call : Call) (s : Session) :
    (∃ reply, Transition s call.operation reply (call.turn s).after) ∨ (call.turn s).after = s := by
  cases result : (call.turn s).result with
  | ok reply =>
    obtain ⟨_, gives⟩ := Call.gives_of_result result
    exact Or.inl ⟨reply, Transition.of_gives gives⟩
  | error e =>
    obtain ⟨_, failed⟩ := Call.failed_of_result result
    exact Or.inr (call.operation.atomic_run s call.ambient e _ _ failed)

/-- **What every transition preserves holds after every history.** -/
theorem Session.preserved {P : Session → Prop} {allowed : Operation → Prop}
    (step : ∀ s op reply s', allowed op → P s → Transition s op reply s' → P s') {s : Session}
    (h : P s) {calls : List Call} (all : ∀ call ∈ calls, allowed call.operation) :
    P (s.after calls) := by
  induction calls generalizing s with
  | nil => exact h
  | cons call calls ih =>
    have next : P (call.turn s).after := by
      rcases call.transition_or_unchanged s with ⟨reply, moved⟩ | same
      · exact step _ _ _ _ (all call List.mem_cons_self) h moved
      · exact same.symm ▸ h
    exact ih next fun c hc => all c (List.mem_cons_of_mem _ hc)

/-- Nothing but the stage is ever changed. -/
theorem Session.after_eq_at (s : Session) (calls : List Call) :
    s.after calls = s.at (s.after calls).stage := by
  have step : ∀ (r : Session) op reply r', True → r = s.at r.stage → Transition r op reply r' →
      r' = s.at r'.stage := by
    intro r op reply r' _ same moved
    rw [same] at moved
    cases moved <;> rfl
  exact preserved step rfl fun _ _ => True.intro

end DeviceAuth
