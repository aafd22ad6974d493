import DeviceAuth.Proofs.Session.Counter
import DeviceAuth.Proofs.Session.Course
import DeviceAuth.Proofs.Session.Frame

/-!
# The recovery code of an activation

A server may send a recovery code along with its answer. That code counts as confirmed from the start,
and the record keeps it apart from the codes confirmed later, so that it is never forgotten. It is kept
by the digest of the text the server sent. A confirmation looks a code up by the digest of the code
without its mark. The two agree for a code that came without its mark, which is then known as confirmed
for as long as the activation lasts (`Session.confirmation_of_bound`).

They do not agree for a code that came behind its mark, although it is accepted like any other. Such a
code is confirmed again, and remembered like a code that came by post, to be forgotten when sixteen
others have been confirmed: `Session.unconfirmed_of_marked` is one.
-/

set_option autoImplicit false

namespace DeviceAuth

/-! ## Remembered codes -/

namespace Record

variable {record : Record} {digest : Octets 32}

theorem knowsCode_iff :
    record.knowsCode digest = true ↔ record.boundCode = some digest ∨ digest ∈ record.confirmedCodes := by
  unfold knowsCode
  simp

theorem rememberCode_of_known (known : record.knowsCode digest = true) :
    record.rememberCode digest = record :=
  if_pos known

theorem rememberCode_of_unknown (unknown : record.knowsCode digest = false) :
    (record.rememberCode digest).confirmedCodes
      = (if confirmedLimit ≤ record.confirmedCodes.length then record.confirmedCodes.drop 1
        else record.confirmedCodes) ++ [digest] := by
  unfold rememberCode
  rw [unknown]
  rfl

theorem rememberCode_of_counter (counter : Counter) :
    (({ record with counter } : Record).rememberCode digest).confirmedCodes
      = (record.rememberCode digest).confirmedCodes := by
  unfold rememberCode knowsCode
  split
  · rfl
  · rfl

end Record

/-! ## The code an activation came with -/

/-- Whatever activation a session holds, a code with this digest came with it. -/
def Session.BoundTo (s : Session) (digest : Octets 32) : Prop :=
  match s.stage with
  | .established h => h.boundCode = some digest
  | .activated record => record.boundCode = some digest
  | .removed => True
  | _ => False

variable {s s' : Session} {digest : Octets 32}

theorem Session.BoundTo.of_activated {record : Record} (b : s.BoundTo digest)
    (activated : s.stage = .activated record) : record.boundCode = some digest := by
  unfold BoundTo at b
  rw [activated] at b
  exact b

/-- **An activation keeps the code that came with it.** -/
theorem Session.Lasts.bound {first : Session} (lasts : first.Lasts s) (start : first.BoundTo digest) :
    s.BoundTo digest := by
  have changed : ∀ (record next : Record) (op : Operation), record.DiffersOnlyIn next op.parts →
      record.boundCode = some digest → next.boundCode = some digest :=
    fun record next op differs came => (differs.unchanged Record.boundCode rfl).trans came
  exact lasts.carries (fun _ _ _ _ came => came) changed start

/-! ## Confirming -/

namespace Session

variable {established current after : Session} {answer : ActivationAnswer} {data : RecoveryData}
  {code : String} {keys : UnlockKeys} {factor : SignatureFactor} {confirmation : RecoveryConfirmation}
  {a a' b b' : Ambient}

theorem bound_of_establish {outcome : ActivationOutcome}
    (answered : (establish answer).Gives s a outcome established a')
    (sent : answer.recovery = some data) : established.BoundTo (sha256 (Bytes.ofText data.code)) := by
  cases Transition.of_establish answered with
  | established begun named encoded key counter =>
    show answer.recovery.map _ = _
    rw [sent]
    rfl
  | observed observes => cases observes

/-- A confirmation looks the code up in the active record, and remembers it there. -/
theorem record_of_confirm
    (confirmed : (confirmRecovery code keys factor).Gives current b confirmation after b') :
    ∃ record next, current.stage = .activated record ∧ after.stage = .activated next
      ∧ confirmation.alreadyConfirmed = record.knowsCode (Code.digest code)
      ∧ next.confirmedCodes = (record.rememberCode (Code.digest code)).confirmedCodes := by
  cases Transition.of_confirmRecovery confirmed with
  | recoveryConfirmed factors isCode signs =>
    exact ⟨_, _, (activeRecord_eq_ok_iff.1 signs.active).1, rfl, rfl, Record.rememberCode_of_counter _⟩
  | observed observes => cases observes

theorem confirmedCodes_of_commit {record : Record} {u : Unit}
    (committed : (commit keys).Gives s a u current a') (activated : current.stage = .activated record) :
    record.confirmedCodes = [] := by
  cases Transition.of_commit committed with
  | committed established accepted kept =>
    cases activated
    rfl
  | observed observes => cases observes

/-- A code is confirmed by unlock keys that reach the keys of enough factors. -/
theorem exists_gives_confirmRecovery {record : Record} {next : Counter} {found : List SymmetricKey}
    (active : s.activeRecord = .ok record) (counter : record.counter.next = .ok next)
    (isCode : Code.isRecovery code = true) (factors : 2 ≤ factor.count)
    (unlocks : s.Unlocks record keys factor found) (a : Ambient) :
    ∃ confirmation after a', (confirmRecovery code keys factor).Gives s a confirmation after a' := by
  let body := Bytes.ofText (Recovery.bodyText (Code.unmarked code))
  let moved : Record := { record with counter := next }
  have valid : (⟨"POST", Recovery.confirmUri, body, none⟩ : Request).validate = .ok () := rfl
  obtain ⟨a₁, parsed⟩ := Code.gives_parseRecovery isCode a
  obtain ⟨signature, a₂, signed⟩ := exists_gives_sign active counter valid rfl unlocks a₁
  have still : (s.at (.activated moved)).activeRecord = .ok moved :=
    activeRecord_eq_ok_iff.2 ⟨rfl, (activeRecord_eq_ok_iff.1 active).2⟩
  have enough : ¬factor.count < 2 := by omega
  unfold confirmRecovery
  simp [active, enough]
  by_cases known : moved.knowsCode (sha256 (Bytes.ofText (Code.unmarked code))) = true
  · exact ⟨_, _, _, _, _, parsed, _, _, _, signed, moved, still, (if_pos known).mpr ⟨rfl, rfl, rfl⟩⟩
  · exact ⟨_, _, _, _, _, parsed, _, _, _, signed, moved, still, (if_neg known).mpr ⟨⟨rfl, rfl⟩, rfl⟩⟩

/-- The holder of the locks confirms any recovery code, and then any other, or the same again. -/
theorem Keeps.exists_gives_confirmRecovery {h : Handshake} {iv : Octets 16} {locks : Session.Locks}
    {vaults : List Vault} {record : Record} {data : Octets 16} (k : s.Keeps h iv locks vaults)
    (active : s.activeRecord = .ok record) (counter : record.counter = .hashed data)
    (isCode : Code.isRecovery code = true) (a : Ambient) :
    ∃ confirmation after a' next data',
      (confirmRecovery code locks.unlockKeys .possessionKnowledge).Gives s a confirmation after a'
      ∧ after.Keeps h iv locks vaults ∧ after.activeRecord = .ok next
      ∧ next.counter = .hashed data' := by
  have moves : record.counter.next = .ok (.hashed (Counter.hashStep data)) := by
    rw [counter]
    rfl
  have unlocks : s.Unlocks record locks.unlockKeys .possessionKnowledge _ :=
    (k.of_active active).unlocks k.usable nofun
  have factors : 2 ≤ SignatureFactor.possessionKnowledge.count := by decide
  obtain ⟨confirmation, after, a', confirmed⟩ :=
    Session.exists_gives_confirmRecovery active moves isCode factors unlocks a
  have moved := Transition.of_confirmRecovery confirmed
  have kept := moved.keeps_step rfl k
  cases moved with
  | @recoveryConfirmed _ _ _ found next _ _ _ signs =>
    obtain rfl := Except.ok.inj (active.symm.trans signs.active)
    obtain rfl := Except.ok.inj (moves.symm.trans signs.counter)
    have differs := Record.rememberCode_differs record (.hashed (Counter.hashStep data)) (Code.digest code)
    have unblocked := differs.unchanged Record.blocked rfl
    refine ⟨_, _, a', _, _, confirmed, kept, activeRecord_eq_ok_iff.2 ⟨rfl, ?_⟩,
      Record.rememberCode_counter _ _⟩
    exact unblocked.trans (activeRecord_eq_ok_iff.1 active).2
  | observed observes => cases observes

/-- A new activation that a recovery code came with. -/
theorem exists_commitment (valid : data.IsValid) (a : Ambient) :
    let keys : UnlockKeys := ⟨some SymmetricKey.ones.bytes, none, some ⟨[1, 2, 3, 4]⟩⟩
    let answer := ActivationAnswer.ofServer .unit "activation" .zero (some data)
    ∃ request begun outcome established current a₁ a₂ a₃,
      (Session.begin none).Gives ((counting 0).at .empty) a request begun a₁
      ∧ (establish answer).Gives begun a₁ outcome established a₂
      ∧ (commit keys).Gives established a₂ () current a₃ := by
  intro keys answer
  have named : "activation" ≠ "" := by decide
  have accepted : locks keys = .ok ⟨.ones, ⟨[1, 2, 3, 4]⟩, none⟩ := rfl
  obtain ⟨pair, a₁, asked⟩ := exists_gives_begin ((counting 0).at_stage .empty) a
  have begun := ((counting 0).at .empty).at_stage (.begun pair none)
  have right : ∀ found, some data = some found → found.IsValid := by
    intro found given
    obtain rfl := Option.some.inj given
    exact valid
  obtain ⟨a₂, answered⟩ := exists_gives_establish .unit .zero begun named right a₁
  obtain ⟨current, a₃, committed⟩ := exists_gives_commit (at_stage _ _) accepted a₂
  exact ⟨_, _, _, _, current, a₁, a₂, a₃, asked, answered, committed⟩

/-- Such an activation, and a confirmation right after the commitment. -/
theorem exists_confirmation (valid : data.IsValid) (isCode : Code.isRecovery code = true) (a : Ambient) :
    let keys : UnlockKeys := ⟨some SymmetricKey.ones.bytes, none, some ⟨[1, 2, 3, 4]⟩⟩
    let answer := ActivationAnswer.ofServer .unit "activation" .zero (some data)
    ∃ request begun outcome established current confirmation after a₁ a₂ a₃ a₄,
      (Session.begin none).Gives ((counting 0).at .empty) a request begun a₁
      ∧ (establish answer).Gives begun a₁ outcome established a₂
      ∧ (commit keys).Gives established a₂ () current a₃
      ∧ (confirmRecovery code keys .possessionKnowledge).Gives current a₃ confirmation after a₄ := by
  intro keys answer
  obtain ⟨_, _, _, _, _, _, _, a₃, asked, answered, committed⟩ := exists_commitment valid a
  have accepted : locks keys = .ok ⟨.ones, ⟨[1, 2, 3, 4]⟩, none⟩ := rfl
  obtain ⟨h, iv, -, k⟩ := keeps_of_commit accepted committed
  obtain ⟨record, data, active, counter⟩ := exists_activeRecord_of_commit committed
  obtain ⟨_, _, _, _, _, confirmed, -⟩ := k.exists_gives_confirmRecovery active counter isCode a₃
  exact ⟨_, _, _, _, _, _, _, _, _, _, _, asked, answered, committed, confirmed⟩

/-- **The code that came with an activation counts as confirmed**, as long as the activation lasts, if
the server sent it without its mark. In general a confirmation of it finds the code known exactly when
the digest of the text that was sent is the digest of the code, or the code is among those remembered.
A known code leaves the remembered ones alone, and any other is remembered last. -/
theorem confirmation_of_bound {outcome : ActivationOutcome}
    (answered : (establish answer).Gives s a outcome established a')
    (sent : answer.recovery = some data) (lasts : established.Lasts current)
    (confirmed : (confirmRecovery code keys factor).Gives current b confirmation after b')
    (same : Code.unmarked code = Code.unmarked data.code) :
    ∃ record next, current.record? = some record ∧ after.record? = some next
      ∧ (confirmation.alreadyConfirmed = true ↔
        sha256 (Bytes.ofText data.code) = Code.digest data.code
          ∨ Code.digest data.code ∈ record.confirmedCodes)
      ∧ (confirmation.alreadyConfirmed = true → next.confirmedCodes = record.confirmedCodes)
      ∧ (confirmation.alreadyConfirmed = false →
        next.confirmedCodes.getLast? = some (Code.digest data.code))
      ∧ (Code.unmarked data.code = data.code → confirmation.alreadyConfirmed = true) := by
  obtain ⟨record, next, activated, after, known, codes⟩ := record_of_confirm confirmed
  have bound := (lasts.bound (bound_of_establish answered sent)).of_activated activated
  have spelled : Code.digest code = Code.digest data.code := by
    unfold Code.digest
    rw [same]
  rw [spelled] at known codes
  have found : confirmation.alreadyConfirmed = true ↔
      sha256 (Bytes.ofText data.code) = Code.digest data.code
        ∨ Code.digest data.code ∈ record.confirmedCodes := by
    rw [known, Record.knowsCode_iff, bound, Option.some.injEq]
  refine ⟨record, next, record?_eq_some_iff.2 activated, record?_eq_some_iff.2 after, found, ?_, ?_, ?_⟩
  · intro confirmed
    rw [known] at confirmed
    rw [codes, Record.rememberCode_of_known confirmed]
  · intro unconfirmed
    rw [known] at unconfirmed
    rw [codes, Record.rememberCode_of_unknown unconfirmed]
    exact List.getLast?_concat
  · intro plain
    refine found.2 (Or.inl ?_)
    unfold Code.digest
    rw [plain]

/-- A code that was sent without its mark is found confirmed, here spelled with it. -/
theorem confirmed_of_plain :
    let code := "VVVVV-VVVVV-VVVVV-VTFVA"
    ∃ begun a answer outcome established a' data current b keys factor confirmation after b',
      (establish answer).Gives begun a outcome established a' ∧ answer.recovery = some data
      ∧ data.code = code ∧ established.Lasts current
      ∧ (confirmRecovery ("R:" ++ code) keys factor).Gives current b confirmation after b'
      ∧ confirmation.alreadyConfirmed = true := by
  intro code
  have own : Code.isActivation code = true := by decide +kernel
  have plain : Code.unmarked code = code := Code.unmarked_of_isActivation own
  have marked : Code.unmarked ("R:" ++ code) = Code.unmarked code :=
    (Code.unmarked_marked code).trans plain.symm
  have valid : (⟨code, "0123456789"⟩ : RecoveryData).IsValid :=
    ⟨Code.isRecovery_of_isActivation own, by decide +kernel⟩
  have isCode : Code.isRecovery ("R:" ++ code) = true := Code.isRecovery_marked own
  obtain ⟨request, begun, outcome, established, current, confirmation, after, a₁, a₂, a₃, a₄, -, answered,
    committed, confirmed⟩ := exists_confirmation valid isCode ⟨⟨[], 7⟩, 0, []⟩
  have lasts : established.Lasts current := Lasts.start.commit committed
  obtain ⟨record, next, -, -, -, -, -, always⟩ :=
    confirmation_of_bound answered rfl lasts confirmed marked
  exact ⟨_, _, _, _, _, _, _, _, _, _, _, _, _, _, answered, rfl, rfl, lasts, confirmed, always plain⟩

/-- A code that was sent behind its mark is accepted, but found unconfirmed, and remembered. -/
theorem unconfirmed_of_marked :
    let code := "VVVVV-VVVVV-VVVVV-VTFVA"
    let keys : UnlockKeys := ⟨some SymmetricKey.ones.bytes, none, some ⟨[1, 2, 3, 4]⟩⟩
    let answer := ActivationAnswer.ofServer .unit "activation" .zero (some ⟨"R:" ++ code, "0123456789"⟩)
    ∃ request begun outcome established current confirmation after next a₁ a₂ a₃ a₄,
      (Session.begin none).Gives ((counting 0).at .empty) ⟨⟨[], 7⟩, 0, []⟩ request begun a₁
      ∧ (establish answer).Gives begun a₁ outcome established a₂
      ∧ (commit keys).Gives established a₂ () current a₃
      ∧ (confirmRecovery code keys .possessionKnowledge).Gives current a₃ confirmation after a₄
      ∧ confirmation.alreadyConfirmed = false ∧ after.record? = some next
      ∧ next.confirmedCodes = [sha256 (Bytes.ofText code)] := by
  intro code keys answer
  have own : Code.isActivation code = true := by decide +kernel
  have plain : Code.unmarked code = code := Code.unmarked_of_isActivation own
  have valid : (⟨"R:" ++ code, "0123456789"⟩ : RecoveryData).IsValid :=
    ⟨Code.isRecovery_marked own, by decide +kernel⟩
  have isCode : Code.isRecovery code = true := Code.isRecovery_of_isActivation own
  have different : sha256 (Bytes.ofText ("R:" ++ code)) ≠ sha256 (Bytes.ofText code) := by
    decide +kernel
  obtain ⟨request, begun, outcome, established, current, confirmation, after, a₁, a₂, a₃, a₄, asked,
    answered, committed, confirmed⟩ := exists_confirmation valid isCode ⟨⟨[], 7⟩, 0, []⟩
  obtain ⟨record, next, activated, held, known, codes⟩ := record_of_confirm confirmed
  have lasts : established.Lasts current := Lasts.start.commit committed
  have bound := (lasts.bound (bound_of_establish answered rfl)).of_activated activated
  have none := confirmedCodes_of_commit committed activated
  have digest : Code.digest code = sha256 (Bytes.ofText code) := by
    unfold Code.digest
    rw [plain]
  rw [digest] at known codes
  have unknown : record.knowsCode (sha256 (Bytes.ofText code)) = false := by
    refine Bool.eq_false_iff.2 fun found => ?_
    rcases Record.knowsCode_iff.1 found with same | member
    · exact different (Option.some.inj (bound.symm.trans same))
    · rw [none] at member
      cases member
  rw [Record.rememberCode_of_unknown unknown, none] at codes
  exact ⟨_, _, _, _, _, _, _, next, _, _, _, _, asked, answered, committed, confirmed,
    known.trans unknown, record?_eq_some_iff.2 held, codes⟩

end Session

end DeviceAuth
