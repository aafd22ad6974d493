import DeviceAuth.Proofs.Code.Mark
import DeviceAuth.Proofs.Description.Runs
import DeviceAuth.Proofs.Json.Forms
import DeviceAuth.Proofs.Session.Handshake
import DeviceAuth.Proofs.Session.Phases

/-!
# What descriptions keep, and what one of them shows

The descriptions of two values that differ in secrets only are the same, and two runs that differ in
secrets only come by such values. One description is different. The answer to the first step of a
recovery activation carries a text for the server, made of the recovery code and its key, and describes it
like any other text. That text is read back as what it was made of (`RecoveryData.identity_inj`), so the
description tells both completely.
-/

set_option autoImplicit false

namespace DeviceAuth

variable {s s' t t' : Session} {a a' b b' : Ambient}

/-- The identity attributes tell the recovery data they are made of. -/
theorem RecoveryData.identity_inj {x y : RecoveryData} : x.identity = y.identity ↔ x = y := by
  constructor
  · intro same
    have fields := Json.record_inj.1 (Json.render_inj.1 same)
    obtain ⟨puk, code⟩ : x.puk = y.puk ∧ x.code = y.code := by simpa [toJson, Json.ofText] using fields
    obtain ⟨_, _⟩ := x
    obtain ⟨_, _⟩ := y
    cases puk
    cases code
    rfl
  · rintro rfl
    rfl

namespace Session

theorem identity_of_beginRecovery {code puk : String} {request : ActivationRequest}
    (h : (beginRecovery code puk).Gives s a request s' a') :
    request.identity = some (RecoveryData.identity ⟨Code.unmarked code, puk⟩) := by
  unfold beginRecovery at h
  rw [Change.gives_object_bind, Change.gives_checked_bind] at h
  obtain ⟨_, -, h⟩ := h
  obtain ⟨parsed, _, parsing, h⟩ := Change.gives_liftM_bind.1 h
  obtain ⟨-, rfl⟩ := Code.parsed_of_gives parsing
  simp at h
  obtain ⟨-, started⟩ := h
  obtain ⟨pair, rfl, -⟩ := Transition.of_start started
  rfl

/-- With one device key there are as many descriptions of what starts a recovery activation as there are
pairs of a code, its mark apart, and a key. -/
theorem describe_eq_iff_of_beginRecovery {code puk code' puk' : String}
    {request request' : ActivationRequest} (asked : (beginRecovery code puk).Gives s a request s' a')
    (asked' : (beginRecovery code' puk').Gives t b request' t' b')
    (same : request.deviceKey = request'.deviceKey) :
    request.describe = request'.describe ↔ Code.unmarked code = Code.unmarked code' ∧ puk = puk' := by
  rw [ActivationRequest.describe_eq_iff same, identity_of_beginRecovery asked,
    identity_of_beginRecovery asked', Option.some.injEq, RecoveryData.identity_inj,
    RecoveryData.mk.injEq]

/-- Recovery activations that begin in the same surroundings draw the same key pair. -/
theorem exists_gives_beginRecovery {code : String} (isCode : Code.isRecovery code = true) (a : Ambient) :
    ∃ pair : KeyPair, ∀ (s : Session) (puk : String), s.stage = .empty → Code.isPuk puk = true →
      ∃ a', (beginRecovery code puk).Gives s a
        ⟨pair.publicKey.base64, some (RecoveryData.identity ⟨Code.unmarked code, puk⟩)⟩
        (s.at (.begun pair (some ⟨Code.unmarked code, puk⟩))) a' := by
  obtain ⟨a₁, parsed⟩ := Code.gives_parseRecovery isCode a
  obtain ⟨pair, starts⟩ := exists_gives_start a₁
  refine ⟨pair, fun s puk empty isPuk => ?_⟩
  have allowed := requireEmpty_of_empty empty
  obtain ⟨a', started⟩ := starts s (some ⟨Code.unmarked code, puk⟩)
  refine ⟨a', ?_⟩
  unfold beginRecovery
  rw [Change.gives_object_bind, Change.gives_checked_bind]
  refine ⟨(), allowed, Change.gives_liftM_bind.2 ⟨_, a₁, parsed, ?_⟩⟩
  simpa [isPuk] using started

/-- **Descriptions keep every secret but the recovery data of a first step.** Values that differ in
secrets only have one description, unless they are answers to a first step with different identity
attributes. Sessions that were created from setups differing in secrets only, and were called alike, are
such values, with all that the calls handed over. And the description of the answer that starts a
recovery activation tells the code, but for its mark, and its key. -/
theorem descriptions_keep_secrets (x y : Holder) :
    (x.Alike y → (x.describe = y.describe ↔ x.exposed = y.exposed))
    ∧ (∀ (setup setup' : Setup) (s t : Session) (calls calls' : List Call) (a a' b b' : Ambient),
        setup.Alike setup' → (create setup).Gives a s a' → (create setup').Gives b t b' →
        List.Forall₂ Turn.Together (s.history calls) (t.history calls') →
        (s.after calls).Alike (t.after calls')
          ∧ List.Forall₂ Turn.Alike (s.history calls) (t.history calls'))
    ∧ ∀ (s s' t t' : Session) (code puk code' puk' : String) (request request' : ActivationRequest)
        (a a' b b' : Ambient),
        (beginRecovery code puk).Gives s a request s' a' →
        (beginRecovery code' puk').Gives t b request' t' b' →
        request.deviceKey = request'.deviceKey →
        (request.describe = request'.describe
          ↔ Code.unmarked code = Code.unmarked code' ∧ puk = puk') := by
  refine ⟨Holder.Alike.describe_eq_iff, ?_, ?_⟩
  · intro setup setup' s t calls calls' a a' b b' setups created created' together
    exact (alike_of_create setups created created').run together
  · intro s s' t t' code puk code' puk' request request' a a' b b' asked asked' same
    exact describe_eq_iff_of_beginRecovery asked asked' same

/-- Two recovery activations in sessions with different application secrets, and with different keys to
one code: the sessions are described alike, the answers are not. -/
theorem described_of_different_secrets :
    let setup := (counting 0).setup
    let other := { setup with applicationSecret := "another secret" }
    let code := "VVVVV-VVVVV-VVVVV-VTFVA"
    ∃ (s t s' t' : Session) (request request' : ActivationRequest) (a a' a'' b b' : Ambient),
      (create setup).Gives a s a' ∧ (create other).Gives a t a''
      ∧ (beginRecovery code "0123456789").Gives s a request s' b
      ∧ (beginRecovery code "9876543210").Gives t a request' t' b'
      ∧ s'.describe = t'.describe ∧ request.deviceKey = request'.deviceKey
      ∧ request.describe ≠ request'.describe := by
  intro setup other code
  let a : Ambient := ⟨⟨[], 7⟩, 0, []⟩
  have opens (secret : String) (given : secret ≠ "") :
      ∃ s a', (create { setup with applicationSecret := secret }).Gives a s a' := by
    have master : (Setup.decodeMaster KeyPair.unit.publicKey.base64).Gives a KeyPair.unit.publicKey a :=
      Setup.gives_decodeMaster.2
        ⟨⟨_, KeyPair.unit.publicKey.decode_base64, KeyPair.unit.publicKey.ofBytes_bytes⟩, rfl⟩
    unfold create Setup.validate
    simp [setup, counting, Setup.decodeExternal, given]
    exact ⟨_, _, master⟩
  obtain ⟨s, a', created⟩ := opens "secret" (by decide)
  obtain ⟨t, a'', created'⟩ := opens "another secret" (by decide)
  have isCode : Code.isRecovery code = true := Code.isRecovery_of_isActivation (by decide +kernel)
  obtain ⟨pair, begins⟩ := exists_gives_beginRecovery isCode a
  obtain ⟨b, asked⟩ := begins s "0123456789" (empty_of_create created) (by decide +kernel)
  obtain ⟨b', asked'⟩ := begins t "9876543210" (empty_of_create created') (by decide +kernel)
  have ran : (Operation.beginRecovery code "0123456789").run.Gives s a _ _ b :=
    Change.gives_map.2 ⟨_, asked, rfl⟩
  have ran' : (Operation.beginRecovery code "9876543210").run.Gives t a _ _ b' :=
    Change.gives_map.2 ⟨_, asked', rfl⟩
  have together : Turn.Together (Call.turn ⟨.beginRecovery code "0123456789", a⟩ s)
      (Call.turn ⟨.beginRecovery code "9876543210", a⟩ t) := by
    refine ⟨.beginRecovery _ _ _ _, ?_, ?_⟩
    · rw [Call.result_of_gives ran, Call.result_of_gives ran']
      exact Eq.refl true
    · intro reply reply' answered answered'
      rw [Call.result_of_gives ran] at answered
      rw [Call.result_of_gives ran'] at answered'
      cases answered
      cases answered'
      rintro request request' ⟨⟩ ⟨⟩
      rfl
  let began := s.at (.begun pair (some ⟨Code.unmarked code, "0123456789"⟩))
  let began' := t.at (.begun pair (some ⟨Code.unmarked code, "9876543210"⟩))
  obtain ⟨values, runs, recoveries⟩ := descriptions_keep_secrets (.session began) (.session began')
  have alike := (runs setup other s t [_] [_] a a' a a'' ⟨rfl, rfl, rfl, rfl⟩ created created'
    (.cons together .nil)).1
  rw [after_cons_of_gives ran, after_cons_of_gives ran'] at alike
  refine ⟨s, t, _, _, _, _, a, a', a'', b, b', created, created', asked, asked', ?_, rfl, fun same => ?_⟩
  · exact (values (.session alike)).2 rfl
  · exact absurd ((recoveries _ _ _ _ _ _ _ _ _ _ _ _ _ _ asked asked' rfl).1 same).2 (by decide)

/-- With the same code, and the same device key drawn, two keys of a recovery code are told apart. -/
theorem exists_described_apart :
    let code := "VVVVV-VVVVV-VVVVV-VTFVA"
    ∃ (s s' s'' : Session) (request request' : ActivationRequest) (a b b' : Ambient),
      (beginRecovery code "0123456789").Gives s a request s' b
      ∧ (beginRecovery code "9876543210").Gives s a request' s'' b'
      ∧ request.deviceKey = request'.deviceKey ∧ request.describe ≠ request'.describe := by
  intro code
  have isCode : Code.isRecovery code = true := Code.isRecovery_of_isActivation (by decide +kernel)
  let a : Ambient := ⟨⟨[], 7⟩, 0, []⟩
  obtain ⟨pair, begins⟩ := exists_gives_beginRecovery isCode a
  obtain ⟨b, asked⟩ := begins ((counting 0).at .empty) "0123456789" rfl (by decide +kernel)
  obtain ⟨b', asked'⟩ := begins ((counting 0).at .empty) "9876543210" rfl (by decide +kernel)
  refine ⟨_, _, _, _, _, a, b, b', asked, asked', rfl, fun same => ?_⟩
  have told := (describe_eq_iff_of_beginRecovery asked asked' rfl).1 same
  exact absurd told.2 (by decide)

end Session

end DeviceAuth
