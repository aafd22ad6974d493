import DeviceAuth.Proofs.Session.Recovery

/-!
# The identity of an activation

The key exchange gives an activation its identifier, and a fingerprint of both public keys that the
user compares on the two sides. An application may ask for either at any later time. Before the
commitment the answer is computed from the keys of the exchange, afterwards from the octets in the
record. No operation has these octets among the parts of the record it changes, so the answers stay
what they were when the keys were exchanged: `Session.record_frame`.
-/

set_option autoImplicit false

namespace DeviceAuth

namespace Session

variable {s established current : Session} {answer : ActivationAnswer} {outcome : ActivationOutcome}
  {a a' : Ambient}

/-- The session's activation, if it has not been removed, has this identifier and these keys. -/
def IdentifiedBy (s : Session) (id : String) (deviceKey serverKey : Bytes) : Prop :=
  s.Carries
    (fun h => h.activationId = id ∧ h.pair.publicKey.bytes = deviceKey ∧ h.serverKey.bytes = serverKey)
    (fun r => r.activationId = id ∧ r.deviceKey = deviceKey ∧ r.serverKey = serverKey)

theorem Lasts.identifiedBy {id : String} {deviceKey serverKey : Bytes}
    (lasts : established.Lasts current) (start : established.IdentifiedBy id deviceKey serverKey) :
    current.IdentifiedBy id deviceKey serverKey := by
  refine lasts.carries ?_ ?_ start
  -- The record is given the octets of the very keys the fingerprint was computed from.
  · intro h external keys devicePrivate exchanged
    exact exchanged
  · intro record next op differs own
    rw [differs.unchanged Record.activationId rfl, differs.unchanged Record.deviceKey rfl,
      differs.unchanged Record.serverKey rfl]
    exact own

theorem IdentifiedBy.answers {id : String} {deviceKey serverKey : Bytes}
    (own : s.IdentifiedBy id deviceKey serverKey) (kept : s.phase ≠ .removed) :
    s.activationId? = some id ∧ s.fingerprint? = some (fingerprint deviceKey id serverKey) := by
  unfold IdentifiedBy Carries at own
  unfold activationId? fingerprint?
  cases stage : s.stage with
  | empty | begun =>
    rw [stage] at own
    exact own.elim
  | established h =>
    rw [stage] at own
    obtain ⟨rfl, rfl, rfl⟩ := own
    exact ⟨rfl, rfl⟩
  | activated record =>
    rw [stage] at own
    obtain ⟨rfl, rfl, rfl⟩ := own
    exact ⟨rfl, rfl⟩
  | removed =>
    have phase : s.phase = .removed := congrArg Stage.phase stage
    exact absurd phase kept

theorem identifiedBy_of_establish
    (answered : (establish answer).Gives s a outcome established a') :
    ∃ deviceKey serverKey, established.IdentifiedBy answer.activationId deviceKey serverKey
      ∧ outcome.fingerprint = fingerprint deviceKey answer.activationId serverKey := by
  cases Transition.of_establish answered with
  | established begun named encoded key counter => exact ⟨_, _, ⟨rfl, rfl, rfl⟩, rfl⟩
  | observed observes => cases observes

/-- A call that leaves the activation in place changes its own parts of the record, and nothing else. -/
theorem record_differs {call : Call} {record next : Record} (found : s.record? = some record)
    (left : (call.turn s).after.record? = some next) (inPlace : call.LeavesInPlace s) :
    record.DiffersOnlyIn next call.operation.parts := by
  have activated := record?_eq_some_iff.1 found
  have reached := record?_eq_some_iff.1 left
  have unchanged (same : (call.turn s).after = s) :
      record.DiffersOnlyIn next call.operation.parts := by
    rw [same, activated] at reached
    obtain rfl := Stage.activated.inj reached
    exact .refl record _
  rcases call.keeps_or_same inPlace with keeps | same
  · rcases call.transition_or_unchanged s with ⟨reply, moved⟩ | same
    · rcases (moved.leads keeps).of_activated activated with gone | ⟨next', at_, differs⟩
      · cases reached.symm.trans gone
      · obtain rfl := Stage.activated.inj (reached.symm.trans at_)
        exact differs
    · exact unchanged same
  · exact unchanged same

theorem phase_ne_removed {record : Record} (found : s.record? = some record) :
    s.phase ≠ .removed := by
  have activated := record?_eq_some_iff.1 found
  unfold phase
  rw [activated, Stage.phase]
  split
  · decide
  · decide

/-- **Each operation changes its own parts of the record alone**, as long as it leaves the activation
in place. So an activation that lasts keeps its identity: from the key exchange on, whatever is called
that leaves the activation in place, and wherever it is restored from its octets, the identifier and
the fingerprint are those the exchange answered, until the activation is removed. -/
theorem record_frame :
    (∀ (s : Session) (call : Call) (record next : Record), s.record? = some record →
      (call.turn s).after.record? = some next → call.LeavesInPlace s →
      record.DiffersOnlyIn next call.operation.parts)
    ∧ (∀ (first s : Session) (call : Call), first.Lasts s → call.LeavesInPlace s →
      first.Lasts (call.turn s).after)
    ∧ ∀ (s established current : Session) (answer : ActivationAnswer) (outcome : ActivationOutcome)
        (a a' : Ambient), (establish answer).Gives s a outcome established a' →
      established.Lasts current → current.phase ≠ .removed →
      current.activationId? = some answer.activationId
      ∧ current.fingerprint? = some outcome.fingerprint := by
  refine ⟨?_, ?_, ?_⟩
  · intro s call record next found left inPlace
    exact record_differs found left inPlace
  · intro first s call lasts inPlace
    exact lasts.inPlace inPlace
  · intro s established current answer outcome a a' answered lasts kept
    obtain ⟨deviceKey, serverKey, start, compared⟩ := identifiedBy_of_establish answered
    rw [compared]
    exact (lasts.identifiedBy start).answers kept

/-- An activation that confirms a recovery code, and comes back from its octets in a fresh session. -/
theorem frame_of_confirmation :
    let code := "VVVVV-VVVVV-VVVVV-VTFVA"
    let keys : UnlockKeys := ⟨some SymmetricKey.ones.bytes, none, some ⟨[1, 2, 3, 4]⟩⟩
    let answer := ActivationAnswer.ofServer .unit "activation" .zero (some ⟨code, "0123456789"⟩)
    ∃ begun established current confirmed restored outcome record next a a₂ b b₂,
      (establish answer).Gives begun a outcome established a₂
      ∧ established.Lasts current
      ∧ (Call.turn ⟨.confirmRecovery code keys .possessionKnowledge, b⟩ current).after = confirmed
      ∧ current.record? = some record ∧ confirmed.record? = some next
      ∧ record.DiffersOnlyIn next [.counter, .confirmedCodes]
      ∧ confirmed.fingerprint? = some outcome.fingerprint
      ∧ (deserialize current.serialize).Gives (current.at .empty) b () restored b₂
      ∧ restored.activationId? = some "activation"
      ∧ restored.fingerprint? = some outcome.fingerprint := by
  intro code keys answer
  have own : Code.isActivation code = true := by decide +kernel
  have isCode : Code.isRecovery code = true := Code.isRecovery_of_isActivation own
  have valid : (⟨code, "0123456789"⟩ : RecoveryData).IsValid := ⟨isCode, by decide +kernel⟩
  obtain ⟨request, begun, outcome, established, current, confirmation, confirmed, a₁, a₂, a₃, a₄, -,
    answered, committed, ran⟩ := exists_confirmation valid isCode ⟨⟨[], 7⟩, 0, []⟩
  obtain ⟨record, next, activated, reached, -, -⟩ := record_of_confirm ran
  have found := record?_eq_some_iff.2 activated
  have left := record?_eq_some_iff.2 reached
  have lasts : established.Lasts current := Lasts.start.commit committed
  let call : Call := ⟨.confirmRecovery code keys .possessionKnowledge, a₃⟩
  have turned : (call.turn current).after = confirmed :=
    Call.after_of_gives (Change.gives_map.2 ⟨confirmation, ran, rfl⟩)
  have inPlace : call.LeavesInPlace current := True.intro
  obtain ⟨frame, closed, identity⟩ := record_frame
  have differs := frame current call record next found (turned ▸ left) inPlace
  have later : established.Lasts confirmed := turned ▸ closed established current call lasts inPlace
  have same := identity begun established confirmed answer outcome _ _ answered later
    (phase_ne_removed left)
  -- The octets of the activation fit, since its identifier is the one it started with.
  have accepted : locks keys = .ok ⟨.ones, ⟨[1, 2, 3, 4]⟩, none⟩ := rfl
  obtain ⟨h, iv, exchanged, k⟩ := keeps_of_commit accepted committed
  have named := (identity begun established established answer outcome _ _ answered .start
    (by rw [phase, exchanged]; nofun)).1
  unfold activationId? at named
  rw [exchanged] at named
  have short : (Bytes.ofText h.activationId).length < 2 ^ 64 := by
    rw [Option.some.inj named]
    decide
  obtain ⟨_, taken⟩ := k.exists_gives_deserialize short (current.at .empty) a₃
  have again : established.Lasts _ := lasts.restored k.settled (k.fits short) taken
  have back := identity begun established _ answer outcome _ _ answered again
    (phase_ne_removed (record?_eq_some_iff.2 activated))
  exact ⟨_, _, _, _, _, _, _, _, _, _, _, _, answered, lasts, turned, found, left, differs, same.2, taken,
    back⟩

end Session

end DeviceAuth
