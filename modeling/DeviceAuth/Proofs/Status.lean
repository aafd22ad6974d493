import DeviceAuth.Proofs.Cipher.Inverse
import DeviceAuth.Proofs.Session.Atomicity
import DeviceAuth.Proofs.Session.Unlock
import DeviceAuth.Proofs.Text.Canonical
import DeviceAuth.Session.Upkeep

/-!
# What a status says

The server writes a blob, encrypts it for a challenge and a nonce, and sends the three as Base64
(`EncryptedStatus.sealed`). The layout of a blob is `Status.Reported`, octet by octet. The two meet in
`Status.decode_eq_ok_iff`: a text is decoded to a status exactly when it is such a message, and the blob
in it reports the status.

A session adds one thing of its own to what the blob says, the comparison of its counter with the
server's (`Session.gives_decodeStatus`).
-/

set_option autoImplicit false

namespace DeviceAuth

/-! ## Blobs -/

namespace ServerState

theorem ofOctet?_eq_some_iff {b : UInt8} {state : ServerState} :
    ofOctet? b = some state ↔ b = state.octet := by
  constructor
  · intro h
    have found := List.find?_some h
    exact (of_decide_eq_true found).symm
  · rintro rfl
    cases state <;> rfl

theorem exists_octet_iff {b : UInt8} : (∃ state : ServerState, b = state.octet) ↔ 1 ≤ b ∧ b ≤ 5 := by
  constructor
  · rintro ⟨state, rfl⟩
    cases state <;> decide
  · rintro ⟨least, most⟩
    rw [UInt8.le_iff_toNat_le] at least most
    have five : b.toNat = 1 ∨ b.toNat = 2 ∨ b.toNat = 3 ∨ b.toNat = 4 ∨ b.toNat = 5 := by
      simp at least most
      omega
    simp only [← UInt8.toNat_inj]
    rcases five with h | h | h | h | h
    · exact ⟨created, h⟩
    · exact ⟨pendingCommit, h⟩
    · exact ⟨active, h⟩
    · exact ⟨blocked, h⟩
    · exact ⟨removed, h⟩

end ServerState

namespace Status

/-- What a blob reports, octet by octet. The octets from seven to eleven stand for nothing. -/
structure Reported (status : Status) (blob : Octets 32) : Prop where
  magic : blob.bytes.take 4 = Status.magic
  state : blob.bytes.getD 4 0 = status.state.octet
  currentVersion : blob.bytes.getD 5 0 = status.currentVersion
  upgradeVersion : blob.bytes.getD 6 0 = status.upgradeVersion
  counterOctet : blob.bytes.getD 12 0 = status.counterOctet
  failCount : (blob.bytes.getD 13 0).toNat = status.failCount.toNat
  maxFailCount : (blob.bytes.getD 14 0).toNat = status.maxFailCount.toNat
  lookAhead : blob.bytes.getD 15 0 = status.lookAhead
  counterDigest : blob.bytes.drop 16 = status.counterDigest.bytes
  uncompared : status.signatureRecommended = false

variable {status status' : Status} {blob blob' : Octets 32}

/-- A blob reports one status. -/
theorem Reported.unique (r : status.Reported blob) (r' : status'.Reported blob) :
    status = status' := by
  have state := Option.some.inj ((ServerState.ofOctet?_eq_some_iff.2 r.state).symm.trans
    (ServerState.ofOctet?_eq_some_iff.2 r'.state))
  have digest := Octets.ext (r.counterDigest.symm.trans r'.counterDigest)
  have fails := UInt32.toNat_inj.1 (r.failCount.symm.trans r'.failCount)
  have most := UInt32.toNat_inj.1 (r.maxFailCount.symm.trans r'.maxFailCount)
  have current := r.currentVersion.symm.trans r'.currentVersion
  have upgrade := r.upgradeVersion.symm.trans r'.upgradeVersion
  have counter := r.counterOctet.symm.trans r'.counterOctet
  have ahead := r.lookAhead.symm.trans r'.lookAhead
  have flag := r.uncompared.trans r'.uncompared.symm
  cases status
  cases status'
  rw [Status.mk.injEq]
  exact ⟨state, current, upgrade, fails, most, counter, ahead, digest, flag⟩

/-- A blob with the magic and a known state reports what stands at each place of it. -/
theorem reported_of_state {state : ServerState} (start : blob.bytes.take 4 = Status.magic)
    (octet : blob.bytes.getD 4 0 = state.octet) :
    Status.Reported
      { state
        currentVersion := blob.bytes.getD 5 0
        upgradeVersion := blob.bytes.getD 6 0
        failCount := (blob.bytes.getD 13 0).toUInt32
        maxFailCount := (blob.bytes.getD 14 0).toUInt32
        counterOctet := blob.bytes.getD 12 0
        lookAhead := blob.bytes.getD 15 0
        counterDigest := Octets.fitted (blob.bytes.drop 16)
        signatureRecommended := false } blob := by
  have digest : blob.bytes.drop 16 = (Octets.fitted (blob.bytes.drop 16) : Octets 16).bytes := by
    simp [Octets.fitted, blob.length_eq]
  exact ⟨start, octet, rfl, rfl, rfl, (UInt8.toNat_toUInt32 _).symm, (UInt8.toNat_toUInt32 _).symm, rfl,
    digest, rfl⟩

/-- **What is parsed is what the blob reports.** -/
theorem parse_eq_ok_iff : parse blob.bytes = .ok status ↔ status.Reported blob := by
  unfold parse
  by_cases start : blob.bytes.take 4 = Status.magic
  · have sized : ¬(blob.bytes.length ≠ blobSize ∨ blob.bytes.take 4 ≠ Status.magic) :=
      not_or.2 ⟨not_not.2 blob.length_eq, not_not.2 start⟩
    rw [if_neg sized]
    cases known : ServerState.ofOctet? (blob.bytes.getD 4 0) with
    | none =>
      refine ⟨nofun, fun r => ?_⟩
      rw [ServerState.ofOctet?_eq_some_iff.2 r.state] at known
      cases known
    | some state =>
      have reported := reported_of_state start (ServerState.ofOctet?_eq_some_iff.1 known)
      dsimp only
      rw [Except.ok.injEq]
      constructor
      · rintro rfl
        exact reported
      · exact reported.unique
  · rw [if_pos (Or.inr start)]
    exact ⟨nofun, fun r => absurd r.magic start⟩

/-- A blob reports a status if it begins with the magic and its state is one of the five. -/
theorem exists_reported_iff :
    (∃ status : Status, status.Reported blob) ↔
      blob.bytes.take 4 = Status.magic ∧ 1 ≤ blob.bytes.getD 4 0 ∧ blob.bytes.getD 4 0 ≤ 5 := by
  constructor
  · rintro ⟨status, r⟩
    exact ⟨r.magic, ServerState.exists_octet_iff.1 ⟨_, r.state⟩⟩
  · rintro ⟨start, five⟩
    obtain ⟨state, octet⟩ := ServerState.exists_octet_iff.2 five
    exact ⟨_, reported_of_state start octet⟩

/-- Whatever stands in the octets from seven to eleven, the blob reports the same. -/
theorem Reported.of_reserved (r : status.Reported blob)
    (front : blob'.bytes.take 7 = blob.bytes.take 7)
    (back : blob'.bytes.drop 12 = blob.bytes.drop 12) : status.Reported blob' := by
  have before : ∀ i < 7, blob'.bytes.getD i 0 = blob.bytes.getD i 0 := by
    intro i small
    have same := congrArg (fun bytes : Bytes => bytes[i]?) front
    simp only [List.getElem?_take_of_lt small] at same
    rw [List.getD_eq_getElem?_getD, List.getD_eq_getElem?_getD, same]
  have after : ∀ i, blob'.bytes.getD (12 + i) 0 = blob.bytes.getD (12 + i) 0 := by
    intro i
    have same := congrArg (fun bytes : Bytes => bytes[i]?) back
    simp only [List.getElem?_drop] at same
    rw [List.getD_eq_getElem?_getD, List.getD_eq_getElem?_getD, same]
  have start : blob'.bytes.take 4 = blob.bytes.take 4 := by
    have same := congrArg (List.take 4) front
    rwa [List.take_take, List.take_take] at same
  have finish : blob'.bytes.drop 16 = blob.bytes.drop 16 := by
    have same := congrArg (List.drop 4) back
    rwa [List.drop_drop, List.drop_drop] at same
  exact
    { magic := start.trans r.magic
      state := (before 4 (by decide)).trans r.state
      currentVersion := (before 5 (by decide)).trans r.currentVersion
      upgradeVersion := (before 6 (by decide)).trans r.upgradeVersion
      counterOctet := (after 0).trans r.counterOctet
      failCount := (congrArg UInt8.toNat (after 1)).trans r.failCount
      maxFailCount := (congrArg UInt8.toNat (after 2)).trans r.maxFailCount
      lookAhead := (after 3).trans r.lookAhead
      counterDigest := finish.trans r.counterDigest
      uncompared := r.uncompared }

end Status

/-! ## Messages -/

namespace EncryptedStatus

/-- Three strings of octets as they are sent. -/
def ofOctets (challenge nonce : Octets 16) (body : Octets 32) : EncryptedStatus where
  challenge := Text.Base64.encode challenge.bytes
  blob := Text.Base64.encode body.bytes
  nonce := Text.Base64.encode nonce.bytes

/-- A blob under the transport key, in whole blocks, with the vector of a challenge and a nonce. -/
def body (transport : SymmetricKey) (challenge nonce : Octets 16) (blob : Octets 32) : Octets 32 where
  bytes := Cbc.encryptWhole transport (Kdf.keyedFold transport (challenge.bytes ++ nonce.bytes)) blob.bytes
  length_eq := by rw [Cbc.length_encryptWhole (by rw [blob.length_eq]), blob.length_eq]

/-- What the server sends of a blob. -/
def sealed (transport : SymmetricKey) (challenge nonce : Octets 16) (blob : Octets 32) : EncryptedStatus :=
  ofOctets challenge nonce (body transport challenge nonce blob)

/-- Any three strings of these lengths are what the server sends of some blob. -/
theorem exists_ofOctets_eq_sealed (transport : SymmetricKey) (challenge nonce : Octets 16)
    (cipher : Octets 32) : ∃ blob, ofOctets challenge nonce cipher = sealed transport challenge nonce blob := by
  have whole : cipher.bytes.length % 16 = 0 := by rw [cipher.length_eq]
  let iv := Kdf.keyedFold transport (challenge.bytes ++ nonce.bytes)
  let blob : Octets 32 :=
    ⟨Cbc.decryptWhole transport iv cipher.bytes, by rw [Cbc.length_decryptWhole whole, cipher.length_eq]⟩
  have same : cipher = body transport challenge nonce blob :=
    Octets.ext (Cbc.encryptWhole_decryptWhole whole).symm
  exact ⟨blob, congrArg (ofOctets challenge nonce) same⟩

end EncryptedStatus

namespace Status

variable {status : Status} {encrypted : EncryptedStatus} {transport : SymmetricKey}

/-- What the server sends is opened to the blob it sends. -/
theorem decode_sealed (transport : SymmetricKey) (challenge nonce : Octets 16) (blob : Octets 32) :
    decode (.sealed transport challenge nonce blob) transport = parse blob.bytes := by
  let cipher := EncryptedStatus.body transport challenge nonce blob
  have whole : blob.bytes.length % 16 = 0 := by rw [blob.length_eq]
  have some : cipher.bytes ≠ [] := by
    intro none
    have length := cipher.length_eq
    rw [none] at length
    cases length
  have opened : Cbc.decrypt transport (vector transport challenge nonce).bytes cipher.bytes .whole
      = .ok blob.bytes := Cbc.decrypt_whole_eq_ok_iff.2 ⟨some, whole, rfl⟩
  have read : Text.Base64.decodeOctets blobSize (Text.Base64.encode cipher.bytes) = .ok cipher :=
    Text.Base64.decodeOctets_encode cipher
  unfold decode EncryptedStatus.sealed EncryptedStatus.ofOctets
  simp only [Text.Base64.decodeOctets_encode]
  show (Text.Base64.decodeOctets blobSize (Text.Base64.encode cipher.bytes) >>= fun body => _) = _
  rw [read]
  show (Cbc.decrypt transport (vector transport challenge nonce).bytes cipher.bytes .whole >>= _) = _
  rw [opened]
  rfl

/-- What is decoded are three strings as they are sent. -/
theorem exists_octets_of_decode (h : decode encrypted transport = .ok status) :
    ∃ challenge nonce body, encrypted = .ofOctets challenge nonce body := by
  unfold decode at h
  obtain ⟨challenge, first, h⟩ := except_bind_eq_ok_iff.1 h
  obtain ⟨nonce, second, h⟩ := except_bind_eq_ok_iff.1 h
  obtain ⟨body, third, -⟩ := except_bind_eq_ok_iff.1 h
  rw [Text.Base64.decodeOctets_eq_ok_iff] at first second third
  refine ⟨challenge, nonce, body, ?_⟩
  cases encrypted
  unfold EncryptedStatus.ofOctets
  rw [EncryptedStatus.mk.injEq]
  exact ⟨first, third, second⟩

/-- **What is decoded is what the server sends**, and the blob in it reports the status. -/
theorem decode_eq_ok_iff :
    decode encrypted transport = .ok status ↔ ∃ challenge nonce blob,
      encrypted = .sealed transport challenge nonce blob ∧ status.Reported blob := by
  constructor
  · intro h
    obtain ⟨challenge, nonce, cipher, rfl⟩ := exists_octets_of_decode h
    obtain ⟨blob, same⟩ := EncryptedStatus.exists_ofOctets_eq_sealed transport challenge nonce cipher
    rw [same, decode_sealed] at h
    exact ⟨challenge, nonce, blob, same, parse_eq_ok_iff.1 h⟩
  · rintro ⟨challenge, nonce, blob, rfl, reported⟩
    rw [decode_sealed]
    exact parse_eq_ok_iff.2 reported

end Status

/-! ## Sessions -/

/-- Whether a counter is hash-based and its digest under the transport key is not the server's. -/
def Counter.departs (counter : Counter) (transport : SymmetricKey) (digest : Octets 16) : Bool :=
  match counter with
  | .linear _ => false
  | .hashed data => Kdf.keyedFold transport data.bytes ≠ digest

namespace Session

variable {s : Session} {record : Record} {keys : UnlockKeys} {transport : SymmetricKey}
  {encrypted : EncryptedStatus} {a a' : Ambient}

/-- The session holds a committed activation, blocked or not, and the unlock keys the possession key of
it, which opens this transport key. -/
structure ReachesTransport (s : Session) (record : Record) (keys : UnlockKeys)
    (transport : SymmetricKey) : Prop where
  committed : s.stage = .activated record
  valid : keys.validate = .ok ()
  opens : ∃ lock external, UnlockKeys.require .possession keys.possession = .ok lock
    ∧ s.externalFor record = .ok external ∧ record.keys.transport.Opens lock external transport

/-- **A session shows what the blob reports**, but for the comparison of the counters. -/
theorem gives_decodeStatus {shown : Status} :
    (s.decodeStatus encrypted keys).Gives a shown a' ↔
      (∃ record transport own, s.ReachesTransport record keys transport
        ∧ Status.decode encrypted transport = .ok own
        ∧ shown = { own with
            signatureRecommended := record.counter.departs transport own.counterDigest })
      ∧ a' = a := by
  -- A number is not compared, and the blob recommends nothing by itself.
  have finish : ∀ {own : Status} {counter : Counter} {transport : SymmetricKey} {b : Ambient},
      Status.decode encrypted transport = .ok own →
      ((match counter with
        | .linear _ => pure own
        | .hashed data =>
          let digest := Kdf.keyedFold transport data.bytes
          pure { own with signatureRecommended := digest ≠ own.counterDigest } : Core Status).Gives
          b shown a' ↔
        shown = { own with signatureRecommended := counter.departs transport own.counterDigest }
          ∧ a' = b) := by
    intro own counter transport b decoded
    obtain ⟨_, _, _, -, reported⟩ := Status.decode_eq_ok_iff.1 decoded
    have uncompared := reported.uncompared
    cases own
    subst uncompared
    cases counter <;> exact Core.gives_pure
  unfold decodeStatus
  simp only [Core.gives_bind, Core.gives_liftM_checked, Core.gives_liftM_reasoned,
    gives_unlockTransportKey, committedRecord_eq_ok_iff]
  constructor
  · rintro ⟨record, _, ⟨committed, rfl⟩, transport, _, ⟨⟨valid, opens⟩, rfl⟩, own, _, ⟨decoded, rfl⟩,
      ran⟩
    obtain ⟨same, rfl⟩ := (finish decoded).1 ran
    exact ⟨⟨record, transport, own, ⟨committed, valid, opens⟩, decoded, same⟩, rfl⟩
  · rintro ⟨⟨record, transport, own, r, decoded, same⟩, rfl⟩
    exact ⟨record, _, ⟨r.committed, rfl⟩, transport, _, ⟨⟨r.valid, r.opens⟩, rfl⟩, own, _,
      ⟨decoded, rfl⟩, (finish decoded).2 ⟨same, rfl⟩⟩

/-- What the transport key does not decode is refused. -/
theorem ReachesTransport.refuses (r : s.ReachesTransport record keys transport)
    (h : ∀ own, Status.decode encrypted transport ≠ .ok own) :
    (s.decodeStatus encrypted keys).Refuses := by
  have committed : (liftM s.committedRecord : Core Record).Returns record := fun _ =>
    Core.gives_liftM_checked.2 ⟨committedRecord_eq_ok_iff.2 r.committed, rfl⟩
  have reached : (s.unlockTransportKey record keys).Returns transport := fun _ =>
    gives_unlockTransportKey.2 ⟨⟨r.valid, r.opens⟩, rfl⟩
  exact committed.bind_refuses (reached.bind_refuses ((Core.refuses_reasoned h).bind _))

end Session

/-- **A status is what the blob of the server reports**, and nothing else is one. What the server sends
of a blob is decoded to a status exactly if the blob reports it, octet by octet. Some status is reported
if the blob begins with the magic and its state is one of the five, and the octets from seven to eleven
make no difference to it. Every other blob is refused, and so are three texts that are not the Base64 of
16, 32 and 16 octets. There is nothing besides: what is decoded is always what the server sends of some
blob. A session shows the same status for its own transport key, blocked or not, except that it recommends
a signature exactly if its counter is hash-based and the digest of it is not the server's; and it refuses
what is refused. -/
theorem Status.decodes_only_reports :
    (∀ (transport : SymmetricKey) (challenge nonce : Octets 16) (blob : Octets 32) (status : Status),
      (liftM (decode (.sealed transport challenge nonce blob) transport) : Core Status).Returns status ↔
        status.Reported blob)
    ∧ (∀ blob : Octets 32, (∃ status : Status, status.Reported blob) ↔
      blob.bytes.take 4 = magic ∧ 1 ≤ blob.bytes.getD 4 0 ∧ blob.bytes.getD 4 0 ≤ 5)
    ∧ (∀ (status : Status) (blob blob' : Octets 32), blob'.bytes.take 7 = blob.bytes.take 7 →
      blob'.bytes.drop 12 = blob.bytes.drop 12 → status.Reported blob → status.Reported blob')
    ∧ (∀ (transport : SymmetricKey) (challenge nonce : Octets 16) (blob : Octets 32),
      ¬(∃ status : Status, status.Reported blob) →
      (liftM (decode (.sealed transport challenge nonce blob) transport) : Core Status).Refuses)
    ∧ (∀ (transport : SymmetricKey) (encrypted : EncryptedStatus),
      (¬∃ challenge nonce body, encrypted = .ofOctets challenge nonce body) →
      (liftM (decode encrypted transport) : Core Status).Refuses)
    ∧ (∀ (transport : SymmetricKey) (encrypted : EncryptedStatus) (status : Status),
      (liftM (decode encrypted transport) : Core Status).Returns status ↔
        ∃ challenge nonce blob, encrypted = .sealed transport challenge nonce blob
          ∧ status.Reported blob)
    ∧ (∀ (s : Session) (keys : UnlockKeys) (encrypted : EncryptedStatus) (shown : Status),
      (s.decodeStatus encrypted keys).Returns shown ↔ ∃ record transport own,
        s.ReachesTransport record keys transport
          ∧ (liftM (decode encrypted transport) : Core Status).Returns own
          ∧ shown = { own with
              signatureRecommended := record.counter.departs transport own.counterDigest })
    ∧ ∀ (s : Session) (record : Record) (keys : UnlockKeys) (transport : SymmetricKey)
        (encrypted : EncryptedStatus), s.ReachesTransport record keys transport →
      (∀ own, ¬(liftM (decode encrypted transport) : Core Status).Returns own) →
      (s.decodeStatus encrypted keys).Refuses := by
  refine ⟨?_, fun _ => exists_reported_iff, fun _ _ _ front back r => r.of_reserved front back, ?_, ?_,
    ?_, ?_, ?_⟩
  · intro transport challenge nonce blob status
    rw [Core.returns_reasoned, decode_sealed, parse_eq_ok_iff]
  · intro transport challenge nonce blob unreported
    refine Core.refuses_reasoned fun status decoded => unreported ⟨status, ?_⟩
    rwa [decode_sealed, parse_eq_ok_iff] at decoded
  · intro transport encrypted other
    exact Core.refuses_reasoned fun status decoded => other (exists_octets_of_decode decoded)
  · intro transport encrypted status
    rw [Core.returns_reasoned]
    exact decode_eq_ok_iff
  · intro s keys encrypted shown
    simp only [Core.returns_reasoned]
    constructor
    · exact fun h => (Session.gives_decodeStatus.1 (h ⟨⟨[], 0⟩, 0, []⟩)).1
    · exact fun h a => Session.gives_decodeStatus.2 ⟨h, rfl⟩
  · intro s record keys transport encrypted r undecoded
    exact r.refuses fun own decoded => undecoded own (Core.returns_reasoned.2 decoded)

/-- A blocked activation that fetches its status: the reserved octets are skipped, and a state that is
none of the five is refused, as empty texts are. -/
theorem Status.decodes_of_blocked :
    let tail : Bytes := List.replicate 16 0
    let plain : Octets 32 := ⟨magic ++ [3, 2, 3, 0, 0, 0, 0, 0, 7, 1, 5, 20] ++ tail, rfl⟩
    let blob : Octets 32 := ⟨magic ++ [3, 2, 3, 1, 2, 3, 4, 5, 7, 1, 5, 20] ++ tail, rfl⟩
    let unknown : Octets 32 := ⟨magic ++ [6, 2, 3, 0, 0, 0, 0, 0, 7, 1, 5, 20] ++ tail, rfl⟩
    let own : Status := ⟨.active, 2, 3, 1, 5, 7, 20, .zero, false⟩
    let keys : UnlockKeys := { possession := some SymmetricKey.ones.bytes }
    ∃ record : Record, record.blocked = true ∧
      let s := (Session.counting 0).at (.activated record)
      s.ReachesTransport record keys .ones ∧ own.Reported plain ∧ own.Reported blob
      ∧ (s.decodeStatus (.sealed .ones .zero .zero blob) keys).Returns
        { own with signatureRecommended := record.counter.departs .ones own.counterDigest }
      ∧ (liftM (decode (.sealed .ones .zero .zero unknown) .ones) : Core Status).Refuses
      ∧ (s.decodeStatus (.sealed .ones .zero .zero unknown) keys).Refuses
      ∧ (liftM (decode ⟨"", "", ""⟩ .ones) : Core Status).Refuses := by
  intro tail plain blob unknown own keys
  obtain ⟨decodes, reported, reserved, refuses, foreign, -, shows, refuses'⟩ := decodes_only_reports
  let record : Record :=
    { activationId := "activation"
      serverKey := []
      deviceKey := []
      devicePrivate := []
      keys := ⟨⟨[]⟩, ⟨[]⟩, none, .enclosed .ones .ones none .zero .zero, []⟩
      counter := .hashed .zero
      usesExternal := false
      blocked := true
      boundCode := none
      confirmedCodes := [] }
  let s := (Session.counting 0).at (.activated record)
  have reaches : s.ReachesTransport record keys .ones :=
    ⟨rfl, rfl, .ones, none, rfl, rfl, StoredKey.opens_enclosed .ones .ones none .zero .zero⟩
  have first : own.Reported plain := ⟨rfl, rfl, rfl, rfl, rfl, rfl, rfl, rfl, rfl, rfl⟩
  have reports : own.Reported blob := reserved own plain blob rfl rfl first
  have sixth : ¬∃ status : Status, status.Reported unknown := by
    rw [reported]
    decide
  refine ⟨record, rfl, reaches, first, reports, ?_, refuses _ _ _ _ sixth, ?_, ?_⟩
  · exact (shows s keys _ _).2 ⟨record, .ones, own, reaches, (decodes _ _ _ _ _).2 reports, rfl⟩
  · refine refuses' s record keys .ones _ reaches fun own decoded => sixth ⟨own, ?_⟩
    exact (decodes _ _ _ _ _).1 decoded
  · refine foreign _ _ ?_
    rintro ⟨challenge, nonce, body, same⟩
    have empty : Text.Base64.encode [] = "" := rfl
    have text := congrArg EncryptedStatus.challenge same
    have none := Text.Base64.encode_inj.1 (text.symm.trans empty.symm)
    have length := challenge.length_eq
    rw [none] at length
    cases length

end DeviceAuth
