import DeviceAuth.Proofs.Session.Atomicity

/-!
# Only an active activation is used

Every operation that uses an activation asks for the active record before it looks at anything it was
given. While there is none, because nothing was activated yet, or the activation is blocked or
removed, such an operation ends at that question: it draws nothing, logs nothing and changes nothing
(`Operation.result_inactive`).

A blocked record therefore stays what it is until something takes the block away, whatever else is
called meanwhile. The server's word that the activation is active again brings back the very record
that was blocked.
-/

set_option autoImplicit false

namespace DeviceAuth

/-- Whether an operation uses the activation, so that it has to be active. -/
def Operation.needsActive : Operation → Bool
  | sign _ _ _ => true
  | signOffline _ _ _ => true
  | requestVault _ _ _ => true
  | confirmRecovery _ _ _ => true
  | unlockVault _ _ _ => true
  | deriveOnce _ _ _ _ => true
  | addBiometry _ _ => true
  | changePassword _ _ => true
  | removeBiometry => true
  | upgrade _ => true
  | encryptor .activation _ _ => true
  | verifySigned signed => signed.key = .personalized
  | _ => false

/-- Whether an operation can take a block away: the activation is dropped, replaced, or seen active
or removed by the server. -/
def Operation.releases : Operation → Bool
  | remove => true
  | reset => true
  | deserialize _ => true
  | applyStatus status => status.state = .active ∨ status.state = .removed
  | _ => false

variable {s s' : Session} {a : Ambient}

/-! ## Refusing -/

namespace Session

variable {α β : Type} {why : StateFault}

theorem activeRecord_of_inactive (inactive : s.phase ≠ .active) :
    ∃ why, s.activeRecord = .error (.wrongState why) := by
  unfold phase at inactive
  unfold activeRecord
  cases stage : s.stage with
  | activated record =>
    cases blocked : record.blocked with
    | true => exact ⟨.blocked, if_pos blocked⟩
    | false =>
      rw [stage] at inactive
      simp [Stage.phase, blocked] at inactive
  | _ => exact ⟨.notActive, rfl⟩

/-- A change that asks for the active record first. -/
theorem result_gated (refused : s.activeRecord = .error (.wrongState why))
    (next : Session → Record → Change Session α) (f : α → β) (a : Ambient) :
    (f <$> (Change.object >>= fun t => liftM t.activeRecord >>= next t)).result s a
      = ((.error (.wrongState why), s), a) := by
  refine Change.result_map_error ?_ f
  rw [Change.result_object_bind, Change.result_checked_bind, refused]

/-- A question that asks for the active record first. -/
theorem result_ask_gated {question : Session → Core α}
    (refused : (question s).result a = (.error (.wrongState why), a)) (f : α → β) :
    (f <$> ask question).result s a = ((.error (.wrongState why), s), a) := by
  refine Change.result_map_error ?_ f
  show ((((question s).result a).1, s), ((question s).result a).2) = _
  rw [refused]

end Session

/-- **What needs an active activation asks for it first.** -/
theorem Operation.result_inactive {op : Operation} {why : StateFault} (needs : op.needsActive = true)
    (refused : s.activeRecord = .error (.wrongState why)) (a : Ambient) :
    op.run.result s a = ((.error (.wrongState why), s), a) := by
  have asked {α : Type} (next : Record → Core α) :
      (liftM s.activeRecord >>= next).result a = (.error (.wrongState why), a) := by
    rw [refused]
    rfl
  cases op with
  | sign => exact Session.result_gated refused _ _ a
  | requestVault => exact Session.result_gated refused _ _ a
  | confirmRecovery => exact Session.result_gated refused _ _ a
  | addBiometry => exact Session.result_gated refused _ _ a
  | changePassword => exact Session.result_gated refused _ _ a
  | removeBiometry => exact Session.result_gated refused _ _ a
  | upgrade => exact Session.result_gated refused _ _ a
  | signOffline => exact Session.result_ask_gated (asked _) _
  | unlockVault => exact Session.result_ask_gated (asked _) _
  | deriveOnce authorization keys encryptedKey index =>
    refine Session.result_ask_gated ?_ _
    unfold Vault.deriveOnce
    have locked : (Vault.unlock s authorization keys encryptedKey).result a
        = (.error (.wrongState why), a) := asked _
    rw [Core.result_bind, locked]
  | encryptor scope =>
    cases scope with
    | application => cases needs
    | activation => exact Session.result_ask_gated (asked _) _
  | verifySigned signed =>
    obtain ⟨data, signature, key⟩ := signed
    cases key with
    | master => cases needs
    | personalized => exact Session.result_ask_gated (asked _) _
  | _ => cases needs

/-! ## Frozen records -/

/-- **No transition moves a blocked session**, unless it takes the block away. -/
theorem Transition.frozen {op : Operation} {reply : Reply} {record : Record}
    (held : s.stage = .activated record) (blocked : record.blocked = true)
    (keeps : op.releases = false) (moved : Transition s op reply s') : s' = s := by
  have inactive : ∀ found, s.activeRecord ≠ .ok found := by
    intro found active
    obtain ⟨stage, free⟩ := Session.activeRecord_eq_ok_iff.1 active
    obtain rfl := Stage.activated.inj (held.symm.trans stage)
    rw [blocked] at free
    cases free
  cases moved with
  | observed => rfl
  -- What starts or finishes an activation wants a stage without a record.
  | begun stage => cases held.symm.trans stage
  | begunRecovery stage => cases held.symm.trans stage
  | established stage => cases held.symm.trans stage
  | committed stage => cases held.symm.trans stage
  | removedAgain stage => rfl
  | signed signs => exact absurd signs.active (inactive _)
  | vaultRequested _ signs => exact absurd signs.active (inactive _)
  | recoveryConfirmed _ _ signs => exact absurd signs.active (inactive _)
  | upgraded active => exact absurd active (inactive _)
  | passwordChanged active => exact absurd active (inactive _)
  | biometryRemoved active => exact absurd active (inactive _)
  | biometryAdded active => exact absurd active (inactive _)
  | applied now stage seen =>
    obtain rfl := Stage.activated.inj (held.symm.trans stage)
    cases now with
    | true =>
      -- Blocked again: the record has its flag already.
      have same : { record with blocked := true } = record := by rw [← blocked]
      rw [same, ← held]
      rfl
    | false => simp [Operation.releases, seen] at keeps
  | removedOnServer _ seen => simp [Operation.releases, seen] at keeps
  | removed => cases keeps
  | reset => cases keeps
  | restored => cases keeps

namespace Session

theorem frozen_after {record : Record} (held : s.stage = .activated record)
    (blocked : record.blocked = true) {calls : List Call}
    (keeps : ∀ call ∈ calls, call.operation.releases = false) : s.after calls = s := by
  have step : ∀ (t : Session) op reply t', op.releases = false → t = s → Transition t op reply t' →
      t' = s := by
    intro t op reply t' keeps same moved
    subst same
    exact moved.frozen held blocked keeps
  exact preserved step rfl keeps

theorem gives_unblock {record : Record} {status : Status} (held : s.stage = .activated record)
    (blocked : record.blocked = true) (seen : status.state = .active) (a : Ambient) :
    ∃ a', (applyStatus status).Gives s a () (s.at (.activated { record with blocked := false })) a' := by
  unfold applyStatus
  simp [held, seen, blocked]

/-- **Only an active activation is used, and a blocked one is kept as it is.** In every other phase
each operation that uses the activation refuses for the state, for one and the same reason, whatever
its arguments, and leaves the session and all around it as they were. A blocked session comes through
all calls unchanged that do not take the block away, and the first status that says the activation is
active clears the flag and does nothing else. -/
theorem only_active (s : Session) :
    (s.phase ≠ .active → ∃ why, ∀ (op : Operation) a, op.needsActive = true →
      op.run.result s a = ((.error (.wrongState why), s), a))
    ∧ ∀ record, s.stage = .activated record → record.blocked = true → ∀ calls : List Call,
      (∀ call ∈ calls, call.operation.releases = false) →
      s.after calls = s ∧ ∀ (status : Status) a, status.state = .active →
        ∃ a', (applyStatus status).Gives (s.after calls) a ()
          (s.at (.activated { record with blocked := false })) a' := by
  constructor
  · intro inactive
    obtain ⟨why, refused⟩ := activeRecord_of_inactive inactive
    exact ⟨why, fun op a needs => op.result_inactive needs refused a⟩
  · intro record held blocked calls keeps
    have same := frozen_after held blocked keeps
    refine ⟨same, fun status a seen => ?_⟩
    rw [same]
    exact gives_unblock held blocked seen a

/-- An activation that the server blocked: a signature is refused, and so is a new activation in its
place. -/
theorem frozen_counting :
    let a : Ambient := ⟨⟨[], 7⟩, 0, []⟩
    let signing : Operation := .sign ⟨"POST", "/payment", [], none⟩ {} .possession
    let calls : List Call := [⟨signing, a⟩, ⟨.begin none, a⟩]
    ∃ record, (counting 5).stage = .activated record ∧
      let s := (counting 5).at (.activated { record with blocked := true })
      s.phase ≠ .active ∧ signing.needsActive = true
        ∧ (∀ call ∈ calls, call.operation.releases = false)
        ∧ (∃ why, signing.run.result s a = ((.error (.wrongState why), s), a)) ∧ s.after calls = s := by
  intro a signing calls
  refine ⟨_, rfl, ?_⟩
  intro s
  have inactive : s.phase ≠ .active := nofun
  have keeps : ∀ call ∈ calls, call.operation.releases = false := by
    simp [calls, signing, Operation.releases]
  obtain ⟨refuses, frozen⟩ := only_active s
  obtain ⟨why, refused⟩ := refuses inactive
  exact ⟨inactive, rfl, keeps, ⟨why, refused signing a rfl⟩, (frozen _ rfl rfl calls keeps).1⟩

end Session

end DeviceAuth
