import DeviceAuth.Proofs.Session.Signing
import DeviceAuth.Proofs.Signature.Layers

/-!
# Counters and protocol versions

The protocol version of an activation is that of its counter, and four things about a signature go with
it: the version in its header, the counter in the signed data, the octets that enter every layer, and
the way the components are written. `Counter.Marks` is the table of them, and `Session.Signs.belongs`
says that all four are those of the counter that was there when the request came.

Only an upgrade brings a counter of another version. It is always a hash-based one, so the version goes
one way (`Transition.version_step`), and it has a next value even where the number it comes from has
none (`Session.exists_gives_sign_upgraded_iff`).
-/

set_option autoImplicit false

namespace DeviceAuth

/-! ## What goes with a counter -/

/-- The word of a counter, among sixteen octets. -/
theorem Octets.bytes_ofWord (word : UInt64) : (ofWord word).bytes = Bytes.bigEndian 16 word.toNat := by
  have written := Bytes.bigEndian_ofBigEndian (ofWord word).bytes
  rw [(ofWord word).length_eq, Bytes.ofBigEndian_ofWord] at written
  exact written.symm

namespace Counter

/-- What goes with a counter in a signature: the version in the header, the text in the signed data, the
octets that enter every layer, and the way the components are written. -/
inductive Marks : Counter → String → String → Bytes → Signature.Format → Prop
  | linear (value : UInt64) :
    Marks (.linear value) "2.1" (toString value.toNat) (Bytes.bigEndian 16 value.toNat) .decimal
  | hashed (data : Octets 16) :
    Marks (.hashed data) "3.1" (Text.Base64.encode data.bytes) data.bytes .base64

theorem marks (counter : Counter) :
    counter.Marks counter.version.header counter.canonical counter.octets.bytes
      (Signature.format counter.version) := by
  cases counter with
  | linear value =>
    show Marks _ _ _ (Octets.ofWord value).bytes _
    rw [Octets.bytes_ofWord]
    exact .linear value
  | hashed data => exact .hashed data

theorem version_of_next {counter next : Counter} (h : counter.next = .ok next) :
    next.version = counter.version := by
  cases counter with
  | linear value =>
    dsimp only [Counter.next] at h
    split at h
    · cases h
      rfl
    · cases h
  | hashed data =>
    cases h
    rfl

theorem exists_linear_of_version {counter : Counter} (h : counter.version = .v2) :
    ∃ value, counter = .linear value := by
  cases counter with
  | linear value => exact ⟨value, rfl⟩
  | hashed data => cases h

end Counter

/-- A signature of a request belongs to a counter: everything that tells one counter from another in it
is that counter's. -/
def RequestSignature.BelongsTo (signature : RequestSignature) (counter : Counter) (request : Request)
    (secret : String) (found : List SymmetricKey) : Prop :=
  ∃ text octets format parts, counter.Marks signature.version text octets format
    ∧ Signature.Layered found octets
      (Bytes.ofText ("&".intercalate [request.method, Text.Base64.encode (Bytes.ofText request.uri),
        signature.nonce, Text.Base64.encode (sha256 request.body).bytes, text, secret])) parts
    ∧ Signature.Shows format parts signature.value

variable {s s' : Session} {record : Record} {request : Request} {keys : UnlockKeys}
  {factor : SignatureFactor} {signature : RequestSignature} {op : Operation} {reply : Reply}
  {a a' : Ambient}

/-- **A signature belongs to the counter its request found.** -/
theorem Session.Signs.belongs {next : Counter}
    (signs : s.Signs request keys factor record next signature) :
    ∃ found, s.Unlocks record keys factor found
      ∧ signature.BelongsTo record.counter request s.setup.applicationSecret found := by
  obtain ⟨found, unlocks, computed⟩ := signs.value
  obtain ⟨-, -, value⟩ := Signature.compute_eq_ok_iff.1 computed
  refine ⟨found, unlocks, record.counter.canonical, record.counter.octets.bytes,
    Signature.format record.version, _, ?_, Signature.layered_iff.2 rfl, ?_⟩
  · rw [signs.header.1]
    exact record.counter.marks
  · rw [value]
    exact Signature.shows_render _ _

/-- Only what was asked to sign a request answers with a signature. -/
theorem Operation.asks_of_signature (h : op.run.Gives s a reply s' a')
    (made : reply.signature? = some signature) : op.asks.isSome = true := by
  cases op with
  | sign => rfl
  | requestVault => rfl
  | confirmRecovery => rfl
  | _ =>
    obtain ⟨_, -, rfl⟩ := Change.gives_map.1 h
    cases made

/-- A call that answers with a signature has signed the request it was asked to sign. -/
theorem Call.belongs_of_signature {call : Call} (h : (call.turn s).result = .ok reply)
    (made : reply.signature? = some signature) :
    ∃ record request keys factor found, call.operation.asks = some (request, keys, factor)
      ∧ s.activeRecord = .ok record ∧ s.Unlocks record keys factor found
      ∧ signature.BelongsTo record.counter request s.setup.applicationSecret found := by
  obtain ⟨_, gives⟩ := Call.gives_of_result h
  obtain ⟨⟨request, keys, factor⟩, asks⟩ :=
    Option.isSome_iff_exists.1 (Operation.asks_of_signature gives made)
  obtain ⟨record, _, signature', made', signs, -⟩ := (Transition.of_gives gives).signs_of_asks asks
  obtain rfl := Option.some.inj (made'.symm.trans made)
  obtain ⟨found, unlocks, belongs⟩ := signs.belongs
  exact ⟨record, request, keys, factor, found, asks, signs.active, unlocks, belongs⟩

/-! ## What an upgrade leads to -/

/-- What an upgrade makes of a number: the octets that were given, or the first half of the digest of
the number in sixteen octets. -/
def UpgradeData.Yields (data : UpgradeData) (value : UInt64) (octets : Octets 16) : Prop :=
  (data.counterData = none ∧ octets.bytes = (sha256 (Bytes.bigEndian 16 value.toNat)).bytes.take 16)
    ∨ data.counterData = some (Text.Base64.encode octets.bytes)

theorem Counter.bytes_hashStep_ofWord (value : UInt64) :
    (hashStep (.ofWord value)).bytes = (sha256 (Bytes.bigEndian 16 value.toNat)).bytes.take 16 := by
  rw [← Octets.bytes_ofWord]
  rfl

theorem UpgradeData.exists_yields_iff {data : UpgradeData} {value : UInt64} :
    (∃ octets, data.Yields value octets) ↔ data.counterData = none
      ∨ ∃ octets : Octets 16, data.counterData = some (Text.Base64.encode octets.bytes) := by
  constructor
  · rintro ⟨octets, ⟨absent, -⟩ | given⟩
    · exact .inl absent
    · exact .inr ⟨octets, given⟩
  · rintro (absent | ⟨octets, given⟩)
    · exact ⟨_, .inl ⟨absent, Counter.bytes_hashStep_ofWord value⟩⟩
    · exact ⟨octets, .inr given⟩

namespace Session

theorem upgradedCounter_eq_ok_iff {value : UInt64} {data : UpgradeData} {counter : Counter} :
    upgradedCounter (.linear value) data.counterData = .ok counter ↔
      ∃ octets, data.Yields value octets ∧ counter = .hashed octets := by
  obtain ⟨given⟩ := data
  unfold UpgradeData.Yields
  cases given with
  | none =>
    constructor
    · intro h
      exact ⟨_, .inl ⟨rfl, Counter.bytes_hashStep_ofWord value⟩, (Except.ok.inj h).symm⟩
    · rintro ⟨octets, ⟨-, digest⟩ | ⟨⟨⟩⟩, rfl⟩
      rw [← Counter.bytes_hashStep_ofWord] at digest
      rw [Octets.ext digest]
      rfl
  | some text =>
    have read : upgradedCounter (.linear value) (some text)
        = (Text.Base64.decodeOctets 16 text).map .hashed := rfl
    simp only [read, reduceCtorEq, false_and, false_or, Option.some_inj,
      ← Text.Base64.decodeOctets_eq_ok_iff]
    cases Text.Base64.decodeOctets 16 text with
    | error why => simp [Except.map]
    | ok octets => simp [Except.map, eq_comm]

/-- Whatever a version 2 counter is upgraded to, it is hash-based. -/
theorem exists_hashed_of_upgradedCounter {counter moved : Counter} {data : UpgradeData}
    (old : counter.version = .v2) (h : upgradedCounter counter data.counterData = .ok moved) :
    ∃ octets, moved = .hashed octets := by
  obtain ⟨value, rfl⟩ := Counter.exists_linear_of_version old
  obtain ⟨octets, -, rfl⟩ := upgradedCounter_eq_ok_iff.1 h
  exact ⟨octets, rfl⟩

end Session

/-! ## One way -/

/-- **No transition takes a version back**: an activation had the version it has after it, or has the
third. -/
theorem Transition.version_step (moved : Transition s op reply s') (keeps : op.discards = false)
    (settled : s.stage.settled = true) :
    s'.stage.settled = true ∧ ∀ found, s'.record? = some found → ∃ record, s.record? = some record
      ∧ (found.version = record.version ∨ found.version = .v3) := by
  by_cases same : op.keepsProtocol = true
  · obtain ⟨settled', moves⟩ := moved.counter_step same settled
    refine ⟨settled', fun found held => ?_⟩
    obtain ⟨record, held', counter⟩ := moves found held
    refine ⟨record, held', .inl ?_⟩
    split at counter
    · exact Counter.version_of_next counter
    · exact congrArg Counter.version counter
  · cases moved with
    | upgraded active old moved =>
      refine ⟨rfl, fun found held => ?_⟩
      obtain ⟨octets, rfl⟩ := Session.exists_hashed_of_upgradedCounter old moved
      obtain rfl := Stage.activated.inj (Session.record?_eq_some_iff.1 held)
      exact ⟨_, Session.record?_eq_some_iff.2 (Session.activeRecord_eq_ok_iff.1 active).1, .inr rfl⟩
    | reset => cases keeps
    | restored decoded => cases keeps
    | observed observes =>
      exact ⟨settled, fun found held => ⟨found, held, .inl rfl⟩⟩
    | _ => exact absurd rfl same

/-- **An activation that has reached version 3 stays there**, as long as it is not dropped for another
state. -/
theorem Session.version_after {calls : List Call} (held : s.record? = some record)
    (latest : record.version = .v3) (keeps : ∀ call ∈ calls, call.operation.discards = false) :
    ∀ found, (s.after calls).record? = some found → found.version = .v3 := by
  have step : ∀ (s : Session) op reply s', op.discards = false →
      (s.stage.settled = true ∧ ∀ found, s.record? = some found → found.version = .v3) →
      Transition s op reply s' →
      s'.stage.settled = true ∧ ∀ found, s'.record? = some found → found.version = .v3 := by
    rintro s op reply s' keeps ⟨settled, latest⟩ moved
    obtain ⟨settled', version⟩ := moved.version_step keeps settled
    refine ⟨settled', fun found held => ?_⟩
    obtain ⟨record, held', same | third⟩ := version found held
    · exact same.trans (latest record held')
    · exact third
  have start : ∀ found, s.record? = some found → found.version = .v3 := by
    intro found held'
    obtain rfl := Option.some.inj (held.symm.trans held')
    exact latest
  exact (preserved step ⟨settled_of_record? held, start⟩ keeps).2

/-! ## Upgrading -/

namespace Session

/-- A number is upgraded to what the upgrade yields. -/
theorem exists_gives_upgrade {data : UpgradeData} {value : UInt64} {octets : Octets 16}
    (active : s.activeRecord = .ok record) (counter : record.counter = .linear value)
    (yields : data.Yields value octets) (a : Ambient) :
    ∃ a', (upgrade data).Gives s a () (s.at (.activated { record with counter := .hashed octets })) a' := by
  have old : record.version = .v2 := congrArg Counter.version counter
  have moved : upgradedCounter record.counter data.counterData = .ok (.hashed octets) := by
    rw [counter]
    exact upgradedCounter_eq_ok_iff.2 ⟨octets, yields, rfl⟩
  unfold upgrade
  simp [and_assoc, active, old]
  exact ⟨_, moved, rfl⟩

/-- Counter data that is not sixteen octets in Base64 is refused, and nothing is changed. -/
theorem result_upgrade_of_unreadable {data : UpgradeData} {value : UInt64}
    (active : s.activeRecord = .ok record) (counter : record.counter = .linear value)
    (unreadable : ¬∃ octets, data.Yields value octets) (a : Ambient) :
    ∃ a', (upgrade data).result s a = ((.error .encryption, s), a') := by
  have old : record.version = .v2 := congrArg Counter.version counter
  have refused : ∀ moved, upgradedCounter record.counter data.counterData ≠ .ok moved := by
    intro moved h
    rw [counter] at h
    obtain ⟨octets, yields, -⟩ := upgradedCounter_eq_ok_iff.1 h
    exact unreadable ⟨octets, yields⟩
  unfold upgrade
  rw [Change.result_object_bind, Change.result_checked_bind, active]
  dsimp only
  rw [if_neg (not_not.2 old)]
  exact Change.Refuses.bind (Change.refuses_reasoned refused s) _ a

/-- An activation of version 3 is not upgraded, blocked or not. -/
theorem result_upgrade_of_latest (held : s.record? = some record) (latest : record.version = .v3)
    (data : UpgradeData) (a : Ambient) :
    ∃ why, (upgrade data).result s a = ((.error (.wrongState why), s), a) := by
  unfold upgrade
  rw [Change.result_object_bind, Change.result_checked_bind]
  cases found : s.activeRecord with
  | error e =>
    have stage := record?_eq_some_iff.1 held
    unfold activeRecord at found
    rw [stage] at found
    dsimp only at found
    split at found
    · cases found
      exact ⟨.blocked, rfl⟩
    · cases found
  | ok active =>
    have stage := (activeRecord_eq_ok_iff.1 found).1
    obtain rfl := Stage.activated.inj (stage.symm.trans (record?_eq_some_iff.1 held))
    have other : active.version ≠ .v2 := by
      rw [latest]
      decide
    dsimp only
    rw [if_pos other]
    exact ⟨.latestProtocol, rfl⟩

/-- **After an upgrade the counter is no reason to refuse.** -/
theorem exists_gives_sign_upgraded_iff {octets : Octets 16} (active : s.activeRecord = .ok record) :
    (∃ signature s' a', (sign request keys factor).Gives
        (s.at (.activated { record with counter := .hashed octets })) a signature s' a') ↔
      request.validate = .ok () ∧ request.offlineNonce = none
        ∧ ∃ found, s.Unlocks record keys factor found := by
  have unblocked := (activeRecord_eq_ok_iff.1 active).2
  -- The keys of a record and the external key are not touched by an upgrade.
  have same : ∀ found, (s.at (.activated { record with counter := .hashed octets })).Unlocks
      { record with counter := .hashed octets } keys factor found ↔ s.Unlocks record keys factor found :=
    fun found => ⟨fun h => ⟨h.valid, h.reached⟩, fun h => ⟨h.valid, h.reached⟩⟩
  rw [exists_gives_sign_iff]
  constructor
  · rintro ⟨_, found, stage, -, -, valid, online, unlocks⟩
    cases stage
    exact ⟨valid, online, found, (same found).1 unlocks⟩
  · rintro ⟨valid, online, found, unlocks⟩
    exact ⟨_, found, rfl, unblocked, nofun, valid, online, (same found).2 unlocks⟩

/-- **The protocol goes forward, and a signature belongs to the counter it was made at.** However often
an activation of version 3 is used, as long as it is not dropped for another state it is of version 3.
Whatever a call answers with a signature, header, signed text, layers and the form of the components are
those of the counter it found. A number, the last one included, is upgraded by counter data of sixteen
octets or by no data, and refused with nothing changed by any other; after the upgrade no counter stands
in the way of a signature. An activation of version 3 is never upgraded. -/
theorem protocol_goes_forward :
    (∀ (s : Session) (record : Record) (calls : List Call), s.record? = some record →
      record.version = .v3 → (∀ call ∈ calls, call.operation.discards = false) →
      ∀ found, (s.after calls).record? = some found → found.version = .v3)
    ∧ (∀ (s : Session) (calls : List Call) (turn : Turn) (reply : Reply)
        (signature : RequestSignature), turn ∈ s.history calls → turn.result = .ok reply →
      reply.signature? = some signature →
      ∃ record request keys factor found, turn.operation.asks = some (request, keys, factor)
        ∧ turn.before.activeRecord = .ok record
        ∧ (turn.before.unlockSignatureKeys record keys factor).Returns found
        ∧ signature.BelongsTo record.counter request turn.before.setup.applicationSecret found)
    ∧ (∀ (s : Session) (record : Record) (value : UInt64), s.activeRecord = .ok record →
      record.counter = .linear value →
      (∀ (data : UpgradeData) (a : Ambient),
        ((data.counterData = none
            ∨ ∃ octets : Octets 16, data.counterData = some (Text.Base64.encode octets.bytes)) →
          ∃ octets a', data.Yields value octets ∧ (upgrade data).Gives s a ()
            (s.at (.activated { record with counter := .hashed octets })) a')
        ∧ (¬(data.counterData = none
            ∨ ∃ octets : Octets 16, data.counterData = some (Text.Base64.encode octets.bytes)) →
          ∃ a', (upgrade data).result s a = ((.error .encryption, s), a')))
      ∧ ∀ (octets : Octets 16) (request : Request) (keys : UnlockKeys) (factor : SignatureFactor)
          (a : Ambient),
        (∃ signature s' a', (sign request keys factor).Gives
            (s.at (.activated { record with counter := .hashed octets })) a signature s' a') ↔
          request.validate = .ok () ∧ request.offlineNonce = none
            ∧ ∃ found, (s.unlockSignatureKeys record keys factor).Returns found)
    ∧ ∀ (s : Session) (record : Record), s.record? = some record → record.version = .v3 →
      ∀ (data : UpgradeData) (a : Ambient),
        ∃ why, (upgrade data).result s a = ((.error (.wrongState why), s), a) := by
  refine ⟨fun s record calls held latest keeps => version_after held latest keeps, ?marks, ?number,
    fun s record held latest data a => result_upgrade_of_latest held latest data a⟩
  case marks =>
    intro s calls turn reply signature place result made
    obtain ⟨earlier, later, split⟩ := List.append_of_mem place
    obtain ⟨before, call, _, -, -, rfl⟩ := exists_of_history_eq split
    obtain ⟨record, request, keys, factor, found, asks, active, unlocks, belongs⟩ :=
      Call.belongs_of_signature result made
    exact ⟨record, request, keys, factor, found, asks, active, unlocks.returns, belongs⟩
  case number =>
    intro s record value active counter
    refine ⟨fun data a => ⟨fun readable => ?_, fun unreadable => ?_⟩, ?_⟩
    · obtain ⟨octets, yields⟩ := UpgradeData.exists_yields_iff.2 readable
      obtain ⟨a', ran⟩ := exists_gives_upgrade active counter yields a
      exact ⟨octets, a', yields, ran⟩
    · have yieldless : ¬∃ octets, data.Yields value octets := mt UpgradeData.exists_yields_iff.1 unreadable
      exact result_upgrade_of_unreadable active counter yieldless a
    · intro octets request keys factor a
      simp only [returns_unlockSignatureKeys_iff]
      exact exists_gives_sign_upgraded_iff active

/-- With the last number nothing is signed. Upgraded, the activation signs as one of version 3, and is
not upgraded once more; counter data of three octets does not upgrade it. -/
theorem protocol_of_last_number :
    let a : Ambient := ⟨⟨[], 7⟩, 0, []⟩
    let request : Request := ⟨"POST", "/payment", [], none⟩
    let keys : UnlockKeys := { possession := some SymmetricKey.ones.bytes }
    let last := counting (UInt64.ofNat (UInt64.size - 1))
    ∃ (signature : RequestSignature) (s s' : Session) (a' b c : Ambient) (why : StateFault),
      (sign request keys .possession).result last a
        = ((.error (.wrongState .counterExhausted), last), a)
      ∧ (upgrade ⟨none⟩).Gives last a () s a'
      ∧ (sign request keys .possession).Gives s a signature s' b
      ∧ signature.version = "3.1"
      ∧ (∀ found, s'.record? = some found → found.version = .v3)
      ∧ (upgrade ⟨none⟩).result s a = ((.error (.wrongState why), s), a)
      ∧ (upgrade ⟨some "AAAA"⟩).result last a = ((.error .encryption, last), c) := by
  intro a request keys last
  obtain ⟨forward, marks, number, latest⟩ := protocol_goes_forward
  obtain ⟨record, active, counter, unlocks⟩ := unlocks_counting (UInt64.ofNat (UInt64.size - 1))
  obtain ⟨upgrading, signing⟩ := number last record _ active counter
  obtain ⟨octets, a', -, upgraded⟩ := (upgrading ⟨none⟩ a).1 (.inl rfl)
  let s := last.at (.activated { record with counter := .hashed octets })
  obtain ⟨signature, s', b, signed⟩ :=
    (signing octets request keys .possession a).2 ⟨rfl, rfl, _, unlocks.returns⟩
  let calls : List Call := [⟨.sign request keys .possession, a⟩]
  have ran : (Operation.sign request keys .possession).run.Gives s a (.signature signature) s' b :=
    Change.gives_map.2 ⟨signature, signed, rfl⟩
  have answered := Call.result_of_gives ran
  have after : s.after calls = s' := Call.after_of_gives ran
  obtain ⟨record', _, _, _, _, -, active', -, _, _, _, _, marked, -, -⟩ :=
    marks s calls _ _ signature List.mem_cons_self answered rfl
  have third : signature.version = "3.1" := by
    obtain rfl := Stage.activated.inj (activeRecord_eq_ok_iff.1 active').1
    generalize signature.version = version at marked ⊢
    cases marked
    rfl
  have keeps : ∀ call ∈ calls, call.operation.discards = false := by
    simp [calls, Operation.discards]
  have onward := forward s _ calls rfl rfl keeps
  rw [after] at onward
  obtain ⟨why, refused⟩ := latest s _ rfl rfl ⟨none⟩ a
  have unreadable : ¬(UpgradeData.mk (some "AAAA")).counterData = none
      ∧ ¬∃ octets : Octets 16, some "AAAA" = some (Text.Base64.encode octets.bytes) := by
    refine ⟨nofun, ?_⟩
    rintro ⟨octets, same⟩
    have read := Text.Base64.decodeOctets_eq_ok_iff.2 (Option.some.inj same)
    have short : ¬(Text.Base64.decodeOctets 16 "AAAA").isOk = true := by decide
    rw [read] at short
    exact short rfl
  obtain ⟨c, kept⟩ := (upgrading ⟨some "AAAA"⟩ a).2 (not_or.2 unreadable)
  exact ⟨signature, s, s', a', b, c, why, rfl, upgraded, signed, third, onward, refused, kept⟩

end Session

end DeviceAuth
