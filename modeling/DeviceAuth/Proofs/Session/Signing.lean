import DeviceAuth.Proofs.Session.Counter
import DeviceAuth.Proofs.Session.ErrorOrder
import DeviceAuth.Proofs.Signature

/-!
# When a request is signed

A request is signed exactly when it passes the checks at the beginning and the unlock keys reach the keys
of its factors. Nothing after that can fail: the keys that are reached are as many as the factors, and the
version a signature is made for is that of the counter it is made with.

What only making a signature would report is `Failure.OfSignature`, and no failure of signing is one. The
checks are looked at one by one (`Spares`), and that there is nothing besides them is known from the order
in which they report (`Session.checks_sign`).
-/

set_option autoImplicit false

namespace DeviceAuth

/-! ## Failures of making a signature -/

/-- What only making a signature reports: a number of keys that makes none, or a counter of another
version. -/
def Failure.OfSignature : Failure → Prop
  | .wrongParameter .factorKeyCount => True
  | .wrongState (.counterVersion _ _) => True
  | _ => False

theorem Failure.OfKeyMaterial.not_ofSignature {e : Failure} (h : e.OfKeyMaterial) : ¬e.OfSignature := by
  rcases h with rfl | rfl <;> exact id

/-- A check that never fails in such a way. -/
def Spares {α : Type} (x : Except Failure α) : Prop := ∀ e, x = .error e → ¬e.OfSignature

section

variable {α β : Type} {x : Except Failure α}

theorem spares_ok (v : α) : Spares (.ok v) := nofun

theorem Spares.bind {f : α → Except Failure β} (hx : Spares x) (hf : ∀ v, Spares (f v)) :
    Spares (x >>= f) := by
  cases x with
  | error e => exact fun _ h => by cases h; exact hx e rfl
  | ok v => exact hf v

theorem Spares.map (hx : Spares x) (f : α → β) : Spares (x.map f) := by
  cases x with
  | error e => exact fun _ h => by cases h; exact hx e rfl
  | ok v => exact spares_ok (f v)

theorem Spares.stateFaults (hx : Spares x) :
    ∀ e ∈ (stateFaults x).map Failure.wrongState, ¬e.OfSignature := by
  intro e he
  refine hx e ?_
  unfold DeviceAuth.stateFaults at he
  grind

theorem Spares.parameterFaults (hx : Spares x) :
    ∀ e ∈ (parameterFaults x).map Failure.wrongParameter, ¬e.OfSignature := by
  intro e he
  refine hx e ?_
  unfold DeviceAuth.parameterFaults at he
  grind

end

theorem spares_activeRecord (s : Session) : Spares s.activeRecord := by
  intro e h
  unfold Session.activeRecord at h
  grind [Failure.OfSignature]

theorem spares_externalFor (s : Session) (record : Record) : Spares (s.externalFor record) := by
  intro e h
  unfold Session.externalFor at h
  grind [Failure.OfSignature]

theorem spares_next (counter : Counter) : Spares counter.next := by
  intro e h
  unfold Counter.next at h
  grind [Failure.OfSignature]

theorem spares_validateRequest (request : Request) : Spares request.validate := by
  intro e h
  unfold Request.validate at h
  grind [Failure.OfSignature]

namespace UnlockKeys

theorem spares_checkKey (role : KeyRole) (bytes : Bytes) : Spares (checkKey role bytes) := by
  intro e h
  unfold checkKey at h
  grind [Failure.OfSignature]

theorem spares_checkGiven (role : KeyRole) (given : Option Bytes) : Spares (checkGiven role given) := by
  cases given with
  | none => exact spares_ok none
  | some bytes => exact (spares_checkKey role bytes).map some

theorem spares_require (role : KeyRole) (given : Option Bytes) : Spares (require role given) := by
  cases given with
  | none => exact fun _ h => by cases h; exact id
  | some bytes => exact spares_checkKey role bytes

theorem spares_validate (keys : UnlockKeys) : Spares keys.validate :=
  (spares_checkGiven _ _).bind fun _ => (spares_checkGiven _ _).bind fun _ => spares_ok ()

theorem spares_requirePassword (keys : UnlockKeys) : Spares keys.requirePassword := by
  intro e h
  unfold requirePassword at h
  grind [Failure.OfSignature]

theorem not_ofSignature_of_faults (keys : UnlockKeys) (factor : SignatureFactor) :
    ∀ e ∈ (keys.faults factor).map Failure.wrongParameter, ¬e.OfSignature := by
  unfold faults
  simp only [List.map_append, List.forall_mem_append]
  refine ⟨(spares_validate keys).parameterFaults, (spares_require _ _).parameterFaults, ?_, ?_⟩
  · split
    · exact (spares_requirePassword keys).parameterFaults
    · simp
  · split
    · exact (spares_require _ _).parameterFaults
    · simp

end UnlockKeys

theorem Record.not_ofSignature_of_slotFaults (record : Record) (factor : SignatureFactor) :
    ∀ e ∈ (record.slotFaults factor).map Failure.wrongState, ¬e.OfSignature :=
  List.forall_mem_map.2 (forall_mem_faultIf id _)

/-- Faults are no failures of making a signature if those of no place are. -/
theorem Faults.not_ofSignature {f : Faults}
    (state : ∀ e ∈ (f.stage ++ f.counter ++ f.wanted ++ f.external).map Failure.wrongState,
      ¬e.OfSignature)
    (argument : ∀ e ∈ (f.arguments ++ f.further).map Failure.wrongParameter, ¬e.OfSignature) :
    ∀ e ∈ f.inOrder, ¬e.OfSignature := by
  have refused (c : Bool) : ∀ e ∈ faultIf c Failure.encryption, ¬e.OfSignature :=
    forall_mem_faultIf id c
  simp only [List.map_append, List.forall_mem_append] at state argument
  simp only [inOrder, List.forall_mem_append]
  exact ⟨state.1.1.1, argument.1, state.1.1.2, refused _, argument.2, state.1.2, refused _, state.2⟩

theorem Faults.not_ofSignature_ofRecord (s : Session) {f : Record → Faults}
    (h : ∀ record, ∀ e ∈ (f record).inOrder, ¬e.OfSignature) :
    ∀ e ∈ (ofRecord s.activeRecord f).inOrder, ¬e.OfSignature := by
  have active := (spares_activeRecord s).stateFaults
  cases found : s.activeRecord with
  | ok record => exact h record
  | error e =>
    rw [found] at active
    exact not_ofSignature (by simpa [ofRecord] using active) (by simp [ofRecord])

/-- A counter has a next value unless it is the last number. -/
theorem Counter.exists_next_iff {counter : Counter} :
    (∃ next, counter.next = .ok next) ↔ counter ≠ .linear (UInt64.ofNat (UInt64.size - 1)) := by
  cases counter with
  | hashed data => exact ⟨fun _ => nofun, fun _ => ⟨_, rfl⟩⟩
  | linear value =>
    have bound := value.toNat_lt
    have last : (UInt64.ofNat (UInt64.size - 1)).toNat = UInt64.size - 1 := rfl
    rw [Ne, linear.injEq, ← UInt64.toNat_inj, last]
    constructor
    · rintro ⟨_, next⟩
      have room := lt_of_next next
      omega
    · intro other
      have room : value.toNat + 1 < UInt64.size := by
        unfold UInt64.size at *
        omega
      exact ⟨_, if_pos room⟩

namespace Session

variable {s s' : Session} {request : Request} {keys : UnlockKeys} {factor : SignatureFactor}
  {record : Record} {found : List SymmetricKey} {a a' : Ambient} {e : Failure}

/-- No failure of signing online is one of making the signature. -/
theorem not_ofSignature_of_sign
    (failed : (sign request keys factor).result s a = ((.error e, s'), a')) : ¬e.OfSignature := by
  rcases (checks_sign request keys factor s).mem_or failed with fault | key
  · refine Faults.not_ofSignature_ofRecord s (fun record => Faults.not_ofSignature ?_ ?_) e fault
    · simp only [List.append_nil, List.map_append, List.forall_mem_append]
      exact ⟨⟨(spares_next _).stateFaults, Record.not_ofSignature_of_slotFaults record factor⟩,
        (spares_externalFor s record).stateFaults⟩
    · simp only [List.append_nil, List.map_append, List.forall_mem_append, Request.onlineFaults]
      exact ⟨⟨(spares_validateRequest request).parameterFaults,
        List.forall_mem_map.2 (forall_mem_faultIf id _)⟩, keys.not_ofSignature_of_faults factor⟩
  · exact key.not_ofSignature

/-- No failure of signing offline is one of making the signature. -/
theorem not_ofSignature_of_signOffline
    (failed : (s.signOffline request keys factor).result a = (.error e, a')) : ¬e.OfSignature := by
  rcases (checks_signOffline request keys factor s).mem_or failed with fault | key
  · refine Faults.not_ofSignature_ofRecord s (fun record => Faults.not_ofSignature ?_ ?_) e fault
    · simp only [List.nil_append, List.map_append, List.forall_mem_append]
      exact ⟨Record.not_ofSignature_of_slotFaults record factor,
        (spares_externalFor s record).stateFaults⟩
    · simp only [List.map_append, List.forall_mem_append, Request.offlineFaults]
      exact ⟨⟨(spares_validateRequest request).parameterFaults,
        List.forall_mem_map.2 (forall_mem_faultIf id _)⟩, keys.not_ofSignature_of_faults factor⟩
  · exact key.not_ofSignature

/-! ## What is needed -/

theorem returns_unlockSignatureKeys_iff :
    (s.unlockSignatureKeys record keys factor).Returns found ↔ s.Unlocks record keys factor found :=
  ⟨fun h => (gives_unlockSignatureKeys.1 (h ⟨⟨[], 0⟩, 0, []⟩)).1, Unlocks.returns⟩

/-- The keys that are reached are as many as the factors. -/
theorem Unlocks.length_eq (h : s.Unlocks record keys factor found) : found.length = factor.count := by
  obtain ⟨_, _, _, knowledge, biometry, -, -, -, hk, hb, rfl⟩ := h.reached
  unfold Record.FindsKnowledge at hk
  unfold Record.FindsBiometry at hb
  unfold SignatureFactor.count
  split at hk <;> split at hb <;> grind

/-- **When a request is signed online.** -/
theorem exists_gives_sign_iff :
    (∃ signature s' a', (sign request keys factor).Gives s a signature s' a') ↔ ∃ record found,
      s.stage = .activated record ∧ record.blocked = false
        ∧ record.counter ≠ .linear (UInt64.ofNat (UInt64.size - 1)) ∧ request.validate = .ok ()
        ∧ request.offlineNonce = none ∧ s.Unlocks record keys factor found := by
  constructor
  · rintro ⟨signature, s', a', ran⟩
    obtain ⟨record, next, signs, -⟩ := signs_of_gives ran
    obtain ⟨stage, unblocked⟩ := activeRecord_eq_ok_iff.1 signs.active
    obtain ⟨found, unlocks, -⟩ := signs.value
    exact ⟨record, found, stage, unblocked, Counter.exists_next_iff.1 ⟨next, signs.counter⟩, signs.valid,
      Option.not_isSome_iff_eq_none.1 (Bool.eq_false_iff.1 signs.online), unlocks⟩
  · rintro ⟨record, found, stage, unblocked, left, valid, online, unlocks⟩
    obtain ⟨next, counter⟩ := Counter.exists_next_iff.2 left
    have online : request.isOffline = false := congrArg Option.isSome online
    obtain ⟨signature, a', ran⟩ :=
      exists_gives_sign (activeRecord_eq_ok_iff.2 ⟨stage, unblocked⟩) counter valid online unlocks a
    exact ⟨signature, _, a', ran⟩

/-- What an offline signature is made of. -/
theorem gives_signOffline {value : String} :
    (s.signOffline request keys factor).Gives a value a' ↔
      (∃ record nonce octets found, s.activeRecord = .ok record ∧ request.validate = .ok ()
        ∧ request.offlineNonce = some nonce
        ∧ Text.Base64.decodeOctets 16 nonce = .ok octets ∧ s.Unlocks record keys factor found
        ∧ Signature.computeOffline found octets.bytes (Bytes.ofText (request.offlineText nonce))
          = .ok value)
      ∧ a' = a := by
  unfold signOffline
  cases request.offlineNonce with
  | none => simp
  | some text =>
    simp only [pure_bind, Core.gives_bind, Core.gives_liftM_checked, Core.gives_liftM_reasoned,
      gives_unlockSignatureKeys]
    constructor
    · rintro ⟨record, _, ⟨active, rfl⟩, _, _, ⟨valid, rfl⟩, octets, _, ⟨decoded, rfl⟩, found, _,
        ⟨unlocks, rfl⟩, computed, rfl⟩
      exact ⟨⟨record, text, octets, found, active, valid, rfl, decoded, unlocks, computed⟩, rfl⟩
    · rintro ⟨⟨record, _, octets, found, active, valid, ⟨⟩, decoded, unlocks, computed⟩, rfl⟩
      exact ⟨record, _, ⟨active, rfl⟩, (), _, ⟨valid, rfl⟩, octets, _, ⟨decoded, rfl⟩, found, _,
        ⟨unlocks, rfl⟩, computed, rfl⟩

/-- **When a request is signed offline.** -/
theorem exists_gives_signOffline_iff :
    (∃ value a', (s.signOffline request keys factor).Gives a value a') ↔
      ∃ record nonce octets found, s.stage = .activated record ∧ record.blocked = false
        ∧ request.validate = .ok () ∧ request.offlineNonce = some nonce
        ∧ Text.Base64.decodeOctets 16 nonce = .ok octets ∧ s.Unlocks record keys factor found := by
  simp only [gives_signOffline]
  constructor
  · rintro ⟨value, _, ⟨record, nonce, octets, found, active, valid, offline, decoded, unlocks, -⟩, -⟩
    obtain ⟨stage, unblocked⟩ := activeRecord_eq_ok_iff.1 active
    exact ⟨record, nonce, octets, found, stage, unblocked, valid, offline, decoded, unlocks⟩
  · rintro ⟨record, nonce, octets, found, stage, unblocked, valid, offline, decoded, unlocks⟩
    obtain ⟨value, computed⟩ := Signature.exists_computeOffline unlocks.length octets
      (Bytes.ofText (request.offlineText nonce))
    exact ⟨value, a, ⟨record, nonce, octets, found, activeRecord_eq_ok_iff.2 ⟨stage, unblocked⟩, valid,
      offline, decoded, unlocks, computed⟩, rfl⟩

/-! ## What is made -/

/-- An online signature has a component for every factor. -/
theorem Signs.hasComponents_iff {next : Counter} {signature : RequestSignature} {count : Nat}
    (h : s.Signs request keys factor record next signature) :
    Signature.HasComponents (Signature.format record.version) count signature.value ↔
      count = factor.count := by
  obtain ⟨found, unlocks, computed⟩ := h.value
  obtain ⟨-, -, same⟩ := Signature.compute_eq_ok_iff.1 computed
  rw [same, Signature.hasComponents_iff, unlocks.length_eq]

theorem hasComponents_of_signOffline {value : String} {count : Nat}
    (h : (s.signOffline request keys factor).Gives a value a') :
    Signature.HasComponents .decimal count value ↔ count = factor.count := by
  obtain ⟨⟨record, nonce, octets, found, -, -, -, -, unlocks, computed⟩, -⟩ := gives_signOffline.1 h
  obtain ⟨-, -, same⟩ := Signature.computeOffline_eq_ok_iff.1 computed
  rw [same, Signature.hasComponents_iff, unlocks.length_eq]

/-- **Signing fails in the checks and in unlocking, and nowhere else.** A request is signed online exactly
if the activation is committed and not blocked, its counter is not the last number, the request passes
its checks and carries no offline nonce, and the unlock keys reach the keys of the factors. It is signed
offline exactly if the activation is committed and not blocked, the request passes its checks, its nonce
is sixteen octets in Base64, and the unlock keys reach the keys of the factors. The keys they reach come in the
order possession, knowledge, biometry (`Session.Unlocks`), one for every factor; they make a signature of
whatever data, so that no failure is one of making it, and a failure changes nothing. A signature has as many
components as there are factors, and no other number. -/
theorem signs_exactly :
    (∀ (s : Session) (request : Request) (keys : UnlockKeys) (factor : SignatureFactor) (a : Ambient),
      (∃ signature s' a', (sign request keys factor).Gives s a signature s' a') ↔ ∃ record found,
        s.stage = .activated record ∧ record.blocked = false
          ∧ record.counter ≠ .linear (UInt64.ofNat (UInt64.size - 1)) ∧ request.validate = .ok ()
          ∧ request.offlineNonce = none ∧ (s.unlockSignatureKeys record keys factor).Returns found)
    ∧ (∀ (s : Session) (request : Request) (keys : UnlockKeys) (factor : SignatureFactor) (a : Ambient),
      (∃ value a', (s.signOffline request keys factor).Gives a value a') ↔
        ∃ record nonce octets found, s.stage = .activated record ∧ record.blocked = false
          ∧ request.validate = .ok () ∧ request.offlineNonce = some nonce
          ∧ Text.Base64.decodeOctets 16 nonce = .ok octets
          ∧ (s.unlockSignatureKeys record keys factor).Returns found)
    ∧ (∀ (s : Session) (record : Record) (keys : UnlockKeys) (factor : SignatureFactor)
        (found : List SymmetricKey), (s.unlockSignatureKeys record keys factor).Returns found →
      s.Unlocks record keys factor found ∧ found.length = factor.count
        ∧ (∀ data, ∃ value, Signature.compute found record.counter record.version data = .ok value)
        ∧ ∀ (nonce : Octets 16) (data : Bytes),
          ∃ value, Signature.computeOffline found nonce.bytes data = .ok value)
    ∧ (∀ (s s' : Session) (request : Request) (keys : UnlockKeys) (factor : SignatureFactor)
        (a a' : Ambient) (e : Failure),
      (sign request keys factor).result s a = ((.error e, s'), a') → s' = s ∧ ¬e.OfSignature)
    ∧ (∀ (s : Session) (request : Request) (keys : UnlockKeys) (factor : SignatureFactor)
        (a a' : Ambient) (e : Failure),
      (s.signOffline request keys factor).result a = (.error e, a') → ¬e.OfSignature)
    ∧ (∀ (s s' : Session) (request : Request) (keys : UnlockKeys) (factor : SignatureFactor)
        (a a' : Ambient) (signature : RequestSignature),
      (sign request keys factor).Gives s a signature s' a' →
      ∃ record, s.stage = .activated record ∧ ∀ count,
        Signature.HasComponents (Signature.format record.version) count signature.value ↔
          count = factor.count)
    ∧ ∀ (s : Session) (request : Request) (keys : UnlockKeys) (factor : SignatureFactor)
        (a a' : Ambient) (value : String) (count : Nat),
      (s.signOffline request keys factor).Gives a value a' →
      (Signature.HasComponents .decimal count value ↔ count = factor.count) := by
  refine ⟨?_, ?_, ?_, ?_, ?_, ?_, ?_⟩
  · intro s request keys factor a
    simp only [returns_unlockSignatureKeys_iff]
    exact exists_gives_sign_iff
  · intro s request keys factor a
    simp only [returns_unlockSignatureKeys_iff]
    exact exists_gives_signOffline_iff
  · intro s record keys factor found reached
    have unlocks := returns_unlockSignatureKeys_iff.1 reached
    exact ⟨unlocks, unlocks.length_eq, Signature.exists_compute unlocks.length record.counter,
      Signature.exists_computeOffline unlocks.length⟩
  · intro s s' request keys factor a a' e failed
    exact ⟨atomic_sign request keys factor s a e s' a' failed, not_ofSignature_of_sign failed⟩
  · intro s request keys factor a a' e failed
    exact not_ofSignature_of_signOffline failed
  · intro s s' request keys factor a a' signature ran
    obtain ⟨record, next, signs, -⟩ := signs_of_gives ran
    exact ⟨record, (activeRecord_eq_ok_iff.1 signs.active).1, fun _ => signs.hasComponents_iff⟩
  · intro s request keys factor a a' value count ran
    exact hasComponents_of_signOffline ran

/-- A request is signed online with a number to go on from. With the last number it is refused online, and
signed offline once it has a nonce. -/
theorem signs_counting :
    let a : Ambient := ⟨⟨[], 7⟩, 0, []⟩
    let request : Request := ⟨"POST", "/payment", [], none⟩
    let offline : Request := { request with offlineNonce := some "AAAAAAAAAAAAAAAAAAAAAA==" }
    let keys : UnlockKeys := { possession := some SymmetricKey.ones.bytes }
    let s := counting 5
    let last := counting (UInt64.ofNat (UInt64.size - 1))
    ∃ (signature : RequestSignature) (s' : Session) (value : String) (a' b : Ambient),
      (sign request keys .possession).Gives s a signature s' a'
      ∧ Signature.HasComponents .decimal 1 signature.value
      ∧ (last.signOffline offline keys .possession).Gives a value b
      ∧ Signature.HasComponents .decimal 1 value
      ∧ (sign request keys .possession).result last a = ((.error (.wrongState .counterExhausted), last), a)
      ∧ (last.signOffline request keys .possession).result a = (.error (.wrongParameter .nonceMissing), a)
      ∧ ¬(Failure.wrongState .counterExhausted).OfSignature
      ∧ ¬(Failure.wrongParameter .nonceMissing).OfSignature := by
  intro a request offline keys s last
  obtain ⟨online, away, reached, fails, fails', components, components'⟩ := signs_exactly
  obtain ⟨record, active, counter, unlocks⟩ := unlocks_counting 5
  obtain ⟨record', active', -, unlocks'⟩ := unlocks_counting (UInt64.ofNat (UInt64.size - 1))
  obtain ⟨stage, unblocked⟩ := activeRecord_eq_ok_iff.1 active
  obtain ⟨stage', unblocked'⟩ := activeRecord_eq_ok_iff.1 active'
  have left : record.counter ≠ .linear (UInt64.ofNat (UInt64.size - 1)) := by
    rw [counter]
    decide
  have given : Text.Base64.decodeOctets 16 "AAAAAAAAAAAAAAAAAAAAAA==" = .ok Octets.zero := by
    decide +kernel
  obtain ⟨signature, s', a', ran⟩ := (online s request keys .possession a).2
    ⟨record, _, stage, unblocked, left, rfl, rfl, unlocks.returns⟩
  obtain ⟨value, b, ran'⟩ := (away last offline keys .possession a).2
    ⟨record', _, _, _, stage', unblocked', rfl, rfl, given, unlocks'.returns⟩
  obtain ⟨found, stage'', made⟩ := components s s' request keys .possession a a' signature ran
  obtain rfl := Stage.activated.inj (stage.symm.trans stage'')
  have version : Signature.format record.version = .decimal := by
    rw [Record.version, counter]
    rfl
  rw [version] at made
  have count := (reached s record keys .possession _ unlocks.returns).2.1
  have exhausted : (sign request keys .possession).result last a
      = ((.error (.wrongState .counterExhausted), last), a) := rfl
  have missing : (last.signOffline request keys .possession).result a
      = (.error (.wrongParameter .nonceMissing), a) := rfl
  exact ⟨signature, s', value, a', b, ran, (made 1).2 count, ran',
    (components' last offline keys .possession a b value 1 ran').2 rfl, exhausted, missing,
    (fails last last request keys .possession a a _ exhausted).2,
    fails' last request keys .possession a a _ missing⟩

end Session

end DeviceAuth
