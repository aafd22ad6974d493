import DeviceAuth.Proofs.Session.Course

/-!
# Device and server agree

The server of an activation sees the device's public key, chooses a key pair, an identifier and the
first counter, and derives everything else for itself. The device derives the same secret from the
other half of the exchange, and from then on only handles what it is wrapped in. `Session.agreement`
is where the two meet: the fingerprints of both sides are one text, and whatever the device signs in
the life of the activation is what the server computes, from its own keys, the request, the nonce that
came with it and the counter.

A signature is also made for somebody who unlocks with a lock that is not the holder's, if it collides
with it. The statement says so; the holder is not concerned (`UnlockKeys.Own.not_confuses`).
-/

set_option autoImplicit false

namespace DeviceAuth

/-! ## What the server sees -/

/-- The device's public key in a request. -/
def ActivationRequest.publicKey (request : ActivationRequest) : Except Reason PublicKey := do
  PublicKey.ofBytes (← Text.Base64.decode request.deviceKey)

/-- A session begins an activation, on its own or with recovery data. -/
inductive Session.Begins (s : Session) (request : ActivationRequest) (s' : Session) : Prop
  | start {code : Option ActivationCode} {a a' : Ambient}
    (ran : (Session.begin code).Gives s a request s' a')
  | recovery {code puk : String} {a a' : Ambient}
    (ran : (Session.beginRecovery code puk).Gives s a request s' a')

variable {s s' : Session} {request : ActivationRequest}

theorem Session.Begins.exists_pair (begins : s.Begins request s') :
    ∃ pair recovery, request.publicKey = .ok pair.publicKey ∧ s'.stage = .begun pair recovery := by
  have read : ∀ (pair : KeyPair) identity,
      (⟨pair.publicKey.base64, identity⟩ : ActivationRequest).publicKey = .ok pair.publicKey := by
    intro pair identity
    exact except_bind_eq_ok_iff.2 ⟨_, pair.publicKey.decode_base64, pair.publicKey.ofBytes_bytes⟩
  cases begins with
  | start ran =>
    cases Transition.of_begin ran with
    | begun empty => exact ⟨_, none, read _ _, rfl⟩
    | observed observes => cases observes
  | recovery ran =>
    cases Transition.of_beginRecovery ran with
    | begunRecovery empty => exact ⟨_, _, read _ _, rfl⟩
    | observed observes => cases observes

theorem Signature.verify_of_compute {keys : List SymmetricKey} {counter : Counter}
    {version : ProtocolVersion} {data : Bytes} {value : String}
    (computed : compute keys counter version data = .ok value) :
    verify keys counter version data value = .ok true := by
  unfold verify
  rw [computed]
  exact congrArg Except.ok (Bytes.matching_self _)

/-- A signed request passes with a server: from the keys below the server's master secret, and from
the request as it arrived, it computes the same signature at some counter. -/
def RequestSignature.PassesWith (signature : RequestSignature) (master : SymmetricKey)
    (request : Request) (counter : Counter) (secret : String) : Prop :=
  Signature.verify (master.signatureKeys signature.factor) counter counter.version
    (Bytes.ofText (request.onlineText signature.nonce counter secret)) signature.value = .ok true

/-! ## Both sides -/

/-- The server's master secret, from its own key and the device's. -/
theorem Session.master_exchange (pair server : KeyPair) (answer : ActivationAnswer)
    (counterData : Octets 16) :
    (exchange pair answer server.publicKey counterData).master
      = Kdf.reduce (server.sharedSecret pair.publicKey) :=
  congrArg Kdf.reduce (pair.sharedSecret_comm server)

/-- What is signed in step with the locks is the signature below the master secret. -/
theorem Session.Keeps.passes_of_sign {h : Handshake} {iv : Octets 16} {locks : Session.Locks}
    {keys : UnlockKeys} {request : Request} {factor : SignatureFactor} {signature : RequestSignature}
    {a a' : Ambient} (k : s.Keeps h iv locks [])
    (signed : (Session.sign request keys factor).Gives s a signature s' a') :
    ∃ record, s.activeRecord = .ok record ∧ signature.factor = factor
      ∧ (signature.PassesWith h.master request record.counter s.setup.applicationSecret
        ∨ record.Confuses s.external locks keys factor) := by
  obtain ⟨record, counter, signs, -⟩ := Session.signs_of_gives signed
  obtain ⟨found, unlocks, computed⟩ := signs.value
  have header := signs.header.2.2.2
  refine ⟨record, signs.active, header, ?_⟩
  rcases (k.of_active signs.active).eq_or_confuses unlocks with rfl | clash
  · rw [← header] at computed
    exact Or.inl (Signature.verify_of_compute computed)
  · exact Or.inr clash

/-- **Device and server agree.** A session that has begun an activation takes the answer of any server,
both sides show one fingerprint, and the session is committed under any acceptable unlock keys.
Whatever life the activation has then, every request that is signed with the holder's keys passes with
the server, which derives its keys from its own half of the exchange; and so does every other request
that is signed, unless a lock was presented that collides with the holder's. -/
theorem Session.agreement {begun : Session} (begins : s.Begins request begun) (server : KeyPair)
    {id : String} (named : id ≠ "") (short : (Bytes.ofText id).length < 2 ^ 64)
    (counterData : Octets 16) {recovery : Option RecoveryData}
    (valid : ∀ data, recovery = some data → data.IsValid) :
    ∃ deviceKey, request.publicKey = .ok deviceKey ∧ ∀ a, ∃ outcome established a',
      (Session.establish (.ofServer server id counterData recovery)).Gives begun a outcome
        established a'
      ∧ outcome.fingerprint = fingerprint deviceKey.bytes id server.publicKey.bytes
      ∧ ∀ keys initial, Session.locks keys = .ok initial → ∀ a, ∃ committed a',
        (Session.commit keys).Gives established a () committed a'
        ∧ ∀ current locks, Session.Course committed initial current locks [] →
          ∀ request keys factor signature after a a',
            (Session.sign request keys factor).Gives current a signature after a' →
            ∃ record, current.activeRecord = .ok record ∧ signature.factor = factor
              ∧ (keys.Own locks → signature.PassesWith (Kdf.reduce (server.sharedSecret deviceKey))
                request record.counter current.setup.applicationSecret)
              ∧ (signature.PassesWith (Kdf.reduce (server.sharedSecret deviceKey)) request
                  record.counter current.setup.applicationSecret
                ∨ record.Confuses current.external locks keys factor) := by
  obtain ⟨pair, own, read, stage⟩ := begins.exists_pair
  refine ⟨pair.publicKey, read, fun a => ?_⟩
  obtain ⟨a', established⟩ := exists_gives_establish server counterData stage named valid a
  refine ⟨_, _, a', established, rfl, fun keys initial accepted a => ?_⟩
  obtain ⟨committed, a', gives⟩ := exists_gives_commit (begun.at_stage _) accepted a
  refine ⟨committed, a', gives, fun current locks course request keys factor signature after a a'
    signed => ?_⟩
  obtain ⟨h, iv, same, start⟩ := keeps_of_commit accepted gives
  obtain rfl := Stage.established.inj same
  have exchanged : (exchange pair (.ofServer server id counterData recovery) server.publicKey
      counterData).Exchanged := rfl
  have k := course.keeps exchanged short start
  rw [← master_exchange pair server (.ofServer server id counterData recovery) counterData]
  obtain ⟨record, active, header, passes⟩ := k.passes_of_sign signed
  exact ⟨record, active, header, fun own => passes.resolve_right own.not_confuses, passes⟩

/-- A request passes with its server after the password was changed and the activation was restored. -/
theorem Session.passes_of_renewed :
    let a : Ambient := ⟨⟨[], 7⟩, 0, []⟩
    let payment : Request := ⟨"POST", "/payment", [], none⟩
    let keys : UnlockKeys := ⟨some SymmetricKey.ones.bytes, none, some ⟨[1, 2, 3, 4]⟩⟩
    let renewed : UnlockKeys := ⟨some SymmetricKey.ones.bytes, none, some ⟨[5, 6, 7, 8]⟩⟩
    let answer := ActivationAnswer.ofServer .unit "activation" .zero none
    ∃ request begun outcome established deviceKey first changed current signature after record a₀ a₁ a₂
        a₃ a₄,
      ((Session.counting 0).at .empty).Begins request begun ∧ request.publicKey = .ok deviceKey
      ∧ (Session.establish answer).Gives begun a outcome established a₀
      ∧ (Session.commit keys).Gives established a () first a₁
      ∧ (Session.changePassword ⟨[1, 2, 3, 4]⟩ ⟨[5, 6, 7, 8]⟩).Gives first a₁ () changed a₂
      ∧ (Session.deserialize changed.serialize).Gives (first.at .empty) a₂ () current a₃
      ∧ (Session.sign payment renewed .possessionKnowledge).Gives current a₃ signature after a₄
      ∧ current.activeRecord = .ok record
      ∧ signature.PassesWith (Kdf.reduce (KeyPair.unit.sharedSecret deviceKey)) payment
        record.counter current.setup.applicationSecret := by
  intro a payment keys renewed answer
  obtain ⟨pair, _, asked⟩ := exists_gives_begin ((counting 0).at_stage .empty) a
  have begins := Begins.start asked
  have named : "activation" ≠ "" := by decide
  have short : (Bytes.ofText "activation").length < 2 ^ 64 := by decide
  have valid : ∀ data, (none : Option RecoveryData) = some data → data.IsValid :=
    fun _ given => by cases given
  have accepted : Session.locks keys = .ok ⟨.ones, ⟨[1, 2, 3, 4]⟩, none⟩ := rfl
  obtain ⟨deviceKey, read, answered⟩ := agreement begins .unit named short .zero valid
  obtain ⟨outcome, established, a₀, answers, -, answered⟩ := answered a
  obtain ⟨first, a₁, committed, agreed⟩ := answered keys _ accepted a
  obtain ⟨h, iv, exchange, start⟩ := keeps_of_commit accepted committed
  obtain ⟨_, data, active, counter⟩ := exists_activeRecord_of_commit committed
  have own : (Bytes.ofText h.activationId).length < 2 ^ 64 := by
    rw [activationId_of_establish answers exchange]
    exact short
  have long : (⟨[5, 6, 7, 8]⟩ : Password).isAcceptable = true := rfl
  have outside : (first.at .empty).external = first.external := rfl
  obtain ⟨changed, current, record, a₂, a₃, changing, restoring, course, k, active, same⟩ :=
    start.exists_renewed .start own active long outside a₁
  have next : record.counter.next = .ok (.hashed (Counter.hashStep data)) := by
    rw [same, counter]
    rfl
  have checked : payment.validate = .ok () := rfl
  have unlocks : current.Unlocks record renewed .possessionKnowledge _ :=
    (k.of_active active).unlocks k.usable nofun
  obtain ⟨signature, a₄, signed⟩ := exists_gives_sign active next checked rfl unlocks a₃
  obtain ⟨found, held, -, passes, -⟩ :=
    agreed current _ course payment renewed _ signature _ a₃ a₄ signed
  obtain rfl := Except.ok.inj (active.symm.trans held)
  exact ⟨_, _, outcome, established, deviceKey, first, changed, current, signature, _, record, a₀, a₁,
    a₂, a₃, a₄, begins, read, answers, committed, changing, restoring, signed, active,
    passes (Locks.own_unlockKeys ⟨.ones, ⟨[5, 6, 7, 8]⟩, none⟩)⟩

end DeviceAuth
