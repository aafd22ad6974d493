import DeviceAuth.Proofs.Session.Blocked

/-!
# The counter follows the signatures

The server predicts the counter of an activation from the number of signatures it has seen. That
works only if the device moves the counter once for each signature it gives out, and never
otherwise: not for a request that fails, and not for anything else an application does.

One step is `Transition.counter_step`: an operation that ended well moved the counter if it signed,
and left it if it did not. With a failed operation leaving everything alone, a whole history moves
the counter as often as it signed (`Session.counter_run`). The three operations that set the counter
themselves, an upgrade, a reset and a restored state, are what `Operation.keepsProtocol` leaves out.
-/

set_option autoImplicit false

namespace DeviceAuth

/-! ## Counting -/

namespace Counter

/-- The counter some signatures later. -/
def advance : Nat → Counter → Except Failure Counter
  | 0, counter => .ok counter
  | n + 1, counter => counter.next >>= advance n

theorem advance_succ_of_next {n : Nat} {counter after : Counter} (h : counter.next = .ok after) :
    counter.advance (n + 1) = after.advance n := by
  rw [advance, h]
  rfl

theorem lt_of_next {value : UInt64} {after : Counter} (h : (linear value).next = .ok after) :
    value.toNat + 1 < UInt64.size := by
  by_cases room : value.toNat + 1 < UInt64.size
  · exact room
  · have none : (linear value).next = .error (.wrongState .counterExhausted) := if_neg room
    rw [none] at h
    cases h

/-- A number counts the signatures, as long as it lasts. -/
theorem advance_linear (n : Nat) (value : UInt64) :
    (linear value).advance n =
      if value.toNat + n < UInt64.size then .ok (linear (value + UInt64.ofNat n))
      else .error (.wrongState .counterExhausted) := by
  induction n generalizing value with
  | zero =>
    have small : value.toNat + 0 < UInt64.size := value.toNat_lt
    rw [if_pos small]
    simp [advance]
  | succ n ih =>
    by_cases last : value.toNat + 1 < UInt64.size
    · have next : (linear value).next = .ok (linear (value + 1)) := if_pos last
      have number : (value + 1).toNat = value.toNat + 1 := by
        rw [UInt64.toNat_add]
        exact Nat.mod_eq_of_lt last
      have sum : value + 1 + UInt64.ofNat n = value + UInt64.ofNat (n + 1) := by
        rw [UInt64.ofNat_add, UInt64.add_assoc, UInt64.add_comm 1]
        rfl
      rw [advance_succ_of_next next, ih, number, sum]
      congr 1
      rw [Nat.add_assoc, Nat.add_comm 1]
    · have next : (linear value).next = .error (.wrongState .counterExhausted) := if_neg last
      rw [advance, next, if_neg (by omega)]
      rfl

end Counter

/-! ## One step -/

/-- Whether an operation leaves the protocol of an activation alone, and with it the counter to the
signatures. -/
def Operation.keepsProtocol : Operation → Bool
  | upgrade _ => false
  | reset => false
  | deserialize _ => false
  | _ => true

/-- The counter moves from `s` to `s'`: only with a signature, and then by one. -/
def Session.CounterMoves (s s' : Session) (signed : Bool) : Prop :=
  ∀ found, s'.record? = some found → ∃ record, s.record? = some record
    ∧ if signed then record.counter.next = .ok found.counter else found.counter = record.counter

variable {s s' : Session}

theorem Session.CounterMoves.refl (s : Session) : s.CounterMoves s false :=
  fun found h => ⟨found, h, rfl⟩

theorem Session.counterMoves_removed (s : Session) (signed : Bool) :
    s.CounterMoves (s.at .removed) signed := by
  intro found h
  cases Session.record?_eq_some_iff.1 h

theorem Session.counterMoves_at {record after : Record} {signed : Bool}
    (stage : s.stage = .activated record)
    (moved : if signed then record.counter.next = .ok after.counter
      else after.counter = record.counter) :
    s.CounterMoves (s.at (.activated after)) signed := by
  intro found h
  obtain rfl := Stage.activated.inj (Session.record?_eq_some_iff.1 h)
  exact ⟨record, Session.record?_eq_some_iff.2 stage, moved⟩

@[simp] theorem Record.rememberCode_counter (record : Record) (digest : Octets 32) :
    (record.rememberCode digest).counter = record.counter := by
  unfold rememberCode
  split <;> rfl

/-- **An operation that ended well** moved the counter if it signed, and left it if it did not. -/
theorem Transition.counter_step {op : Operation} {reply : Reply} (h : Transition s op reply s')
    (keeps : op.keepsProtocol = true) (settled : s.stage.settled = true) :
    s'.stage.settled = true ∧ s.CounterMoves s' op.asks.isSome := by
  cases h with
  | begun empty => simp [empty, Stage.settled] at settled
  | begunRecovery empty => simp [empty, Stage.settled] at settled
  | established begun => simp [begun, Stage.settled] at settled
  | committed established => simp [established, Stage.settled] at settled
  | removed activated => exact ⟨rfl, s.counterMoves_removed _⟩
  | removedAgain removed => exact ⟨settled, .refl s⟩
  | reset => cases keeps
  | signed signs =>
    have stage := (Session.activeRecord_eq_ok_iff.1 signs.active).1
    exact ⟨rfl, Session.counterMoves_at stage signs.counter⟩
  | vaultRequested factors signs =>
    have stage := (Session.activeRecord_eq_ok_iff.1 signs.active).1
    exact ⟨rfl, Session.counterMoves_at stage signs.counter⟩
  | recoveryConfirmed factors isCode signs =>
    have stage := (Session.activeRecord_eq_ok_iff.1 signs.active).1
    refine ⟨rfl, Session.counterMoves_at stage ?_⟩
    rw [Record.rememberCode_counter]
    exact signs.counter
  | applied blocked activated => exact ⟨rfl, Session.counterMoves_at activated rfl⟩
  | removedOnServer activated => exact ⟨rfl, s.counterMoves_removed _⟩
  | upgraded active old => cases keeps
  | restored decoded => cases keeps
  | passwordChanged active =>
    have stage := (Session.activeRecord_eq_ok_iff.1 active).1
    exact ⟨rfl, Session.counterMoves_at stage rfl⟩
  | biometryRemoved active =>
    have stage := (Session.activeRecord_eq_ok_iff.1 active).1
    exact ⟨rfl, Session.counterMoves_at stage rfl⟩
  | biometryAdded active =>
    have stage := (Session.activeRecord_eq_ok_iff.1 active).1
    exact ⟨rfl, Session.counterMoves_at stage rfl⟩
  | observed observes =>
    rw [Operation.asks_of_observes observes]
    exact ⟨settled, .refl s⟩

/-- An operation that asked for a signature and ended well has signed what it asked for. -/
theorem Transition.signs_of_asks {op : Operation} {reply : Reply} {request : Request}
    {keys : UnlockKeys} {factor : SignatureFactor} (h : Transition s op reply s')
    (asks : op.asks = some (request, keys, factor)) :
    ∃ record counter signature, reply.signature? = some signature
      ∧ s.Signs request keys factor record counter signature ∧ s'.record?.isSome = true := by
  cases h with
  | signed signs =>
    cases asks
    exact ⟨_, _, _, rfl, signs, rfl⟩
  | vaultRequested factors signs =>
    cases asks
    exact ⟨_, _, _, rfl, signs, rfl⟩
  | recoveryConfirmed factors isCode signs =>
    cases asks
    exact ⟨_, _, _, rfl, signs, rfl⟩
  | observed observes =>
    rw [Operation.asks_of_observes observes] at asks
    cases asks
  | _ => cases asks

/-- A turn that signed is a call whose request was signed. -/
theorem Call.signs_of_signed {call : Call} (h : (call.turn s).signed = true) :
    ∃ request keys factor reply record counter signature,
      call.operation.asks = some (request, keys, factor) ∧ (call.turn s).result = .ok reply
        ∧ reply.signature? = some signature
        ∧ s.Signs request keys factor record counter signature
        ∧ (call.turn s).after.record?.isSome = true := by
  unfold Turn.signed at h
  rw [Bool.and_eq_true] at h
  obtain ⟨asking, ended⟩ := h
  obtain ⟨⟨request, keys, factor⟩, asks⟩ := Option.isSome_iff_exists.1 asking
  cases result : (call.turn s).result with
  | error e =>
    rw [result] at ended
    cases ended
  | ok reply =>
    obtain ⟨_, gives⟩ := Call.gives_of_result result
    obtain ⟨record, counter, signature, made, signs, held⟩ :=
      (Transition.of_gives gives).signs_of_asks asks
    exact ⟨request, keys, factor, reply, record, counter, signature, asks, rfl, made, signs, held⟩

/-- An activation signs only as long as it is there, and signing does not end it. -/
theorem Call.held_of_signed {call : Call} (h : (call.turn s).signed = true) :
    s.record?.isSome = true ∧ (call.turn s).after.record?.isSome = true := by
  obtain ⟨_, _, _, _, record, _, _, -, -, -, signs, still⟩ := Call.signs_of_signed h
  have held := Session.record?_eq_some_iff.2 (Session.activeRecord_eq_ok_iff.1 signs.active).1
  exact ⟨Option.isSome_iff_exists.2 ⟨record, held⟩, still⟩

/-- A call, however it ended, moved the counter if it signed, and left it if it did not. -/
theorem Call.counter_turn {call : Call} (keeps : call.operation.keepsProtocol = true)
    (settled : s.stage.settled = true) :
    (call.turn s).after.stage.settled = true
      ∧ s.CounterMoves (call.turn s).after (call.turn s).signed := by
  cases result : (call.turn s).result with
  | ok reply =>
    obtain ⟨_, gives⟩ := Call.gives_of_result result
    have signed : (call.turn s).signed = call.operation.asks.isSome := by
      rw [Turn.signed, result]
      exact Bool.and_true _
    rw [signed]
    exact (Transition.of_gives gives).counter_step keeps settled
  | error e =>
    obtain ⟨_, failed⟩ := Call.failed_of_result result
    have unsigned : (call.turn s).signed = false := by
      rw [Turn.signed, result]
      exact Bool.and_false _
    have same := call.operation.atomic_run s call.ambient e _ _ failed
    rw [unsigned, same]
    exact ⟨settled, .refl s⟩

/-! ## A whole history -/

/-- How many calls of a history signed. -/
def signatures (turns : List Turn) : Nat := turns.countP Turn.signed

theorem signatures_cons (turn : Turn) (turns : List Turn) :
    signatures (turn :: turns) = signatures turns + turn.signed.toNat := by
  unfold signatures
  rw [List.countP_cons]
  cases turn.signed <;> rfl

namespace Session

/-- Without an activation nothing is signed, and none comes back. -/
theorem no_signatures {calls : List Call}
    (keeps : ∀ call ∈ calls, call.operation.keepsProtocol = true)
    (settled : s.stage.settled = true) (gone : s.record? = none) :
    signatures (s.history calls) = 0 ∧ (s.after calls).record? = none := by
  induction calls generalizing s with
  | nil => exact ⟨rfl, gone⟩
  | cons call calls ih =>
    obtain ⟨settled', moves⟩ := Call.counter_turn (keeps call List.mem_cons_self) settled
    have gone' : (call.turn s).after.record? = none := by
      cases found : (call.turn s).after.record? with
      | none => rfl
      | some after =>
        obtain ⟨record, held, -⟩ := moves after found
        rw [gone] at held
        cases held
    have unsigned : (call.turn s).signed = false := by
      refine Bool.eq_false_iff.2 fun signed => ?_
      have held := (Call.held_of_signed signed).1
      rw [gone] at held
      cases held
    obtain ⟨none, rest⟩ := ih (fun c hc => keeps c (List.mem_cons_of_mem _ hc)) settled' gone'
    refine ⟨?_, rest⟩
    rw [history, signatures_cons, none, unsigned]
    rfl

/-- **A history moves the counter once for each signature.** -/
theorem counter_run {calls : List Call} {record : Record}
    (keeps : ∀ call ∈ calls, call.operation.keepsProtocol = true) (held : s.record? = some record) :
    ∃ counter, record.counter.advance (signatures (s.history calls)) = .ok counter
      ∧ ∀ found, (s.after calls).record? = some found → found.counter = counter := by
  -- The activation may be removed on the way. The counter it had is then the last one, and the
  -- calls that follow sign nothing.
  induction calls generalizing s record with
  | nil =>
    refine ⟨record.counter, rfl, fun found hf => ?_⟩
    obtain rfl := Option.some.inj (held.symm.trans hf)
    rfl
  | cons call calls ih =>
    have settled := Session.settled_of_record? held
    obtain ⟨settled', moves⟩ := Call.counter_turn (keeps call List.mem_cons_self) settled
    have keeps' : ∀ c ∈ calls, c.operation.keepsProtocol = true :=
      fun c hc => keeps c (List.mem_cons_of_mem _ hc)
    rw [history, signatures_cons]
    cases next : (call.turn s).after.record? with
    | none =>
      obtain ⟨none, gone⟩ := no_signatures keeps' settled' next
      have unsigned : (call.turn s).signed = false := by
        refine Bool.eq_false_iff.2 fun signed => ?_
        have still := (Call.held_of_signed signed).2
        rw [next] at still
        cases still
      refine ⟨record.counter, ?_, fun found hf => ?_⟩
      · rw [none, unsigned]
        rfl
      · rw [after, gone] at hf
        cases hf
    | some after =>
      obtain ⟨before, held', moved⟩ := moves after next
      obtain rfl := Option.some.inj (held.symm.trans held')
      obtain ⟨counter, advanced, final⟩ := ih keeps' next
      refine ⟨counter, ?_, final⟩
      cases signed : (call.turn s).signed with
      | true =>
        rw [signed, if_pos rfl] at moved
        exact (Counter.advance_succ_of_next moved).trans advanced
      | false =>
        rw [signed, if_neg Bool.false_ne_true] at moved
        rw [← moved]
        exact advanced

end Session

/-! ## The last value -/

/-- Whether an operation passes the checks of its own arguments that come before the counter. -/
def Operation.admissible : Operation → Bool
  | requestVault _ _ factor => 2 ≤ factor.count
  | confirmRecovery code _ factor => Code.isRecovery code && 2 ≤ factor.count
  | _ => true

/-- Why a call for a signature is refused once the counter has no next value. -/
def Record.refusal (record : Record) : Failure :=
  .wrongState (if record.blocked then .blocked else .counterExhausted)

namespace Session

variable {record : Record} {a : Ambient}

theorem result_sign_spent (active : s.activeRecord = .ok record)
    (spent : record.counter.next = .error (.wrongState .counterExhausted)) (request : Request)
    (keys : UnlockKeys) (factor : SignatureFactor) :
    (sign request keys factor).result s a = ((.error (.wrongState .counterExhausted), s), a) := by
  unfold sign
  rw [Change.result_object_bind, Change.result_checked_bind, active]
  dsimp only
  rw [Change.result_checked_bind, spent]

theorem result_requestVault_spent (active : s.activeRecord = .ok record)
    (spent : record.counter.next = .error (.wrongState .counterExhausted)) {request : Request}
    {keys : UnlockKeys} {factor : SignatureFactor} (factors : 2 ≤ factor.count) :
    (requestVault request keys factor).result s a
      = ((.error (.wrongState .counterExhausted), s), a) := by
  have enough : ¬factor.count < 2 := by omega
  unfold requestVault
  rw [Change.result_object_bind, Change.result_checked_bind, active]
  simp only [if_neg enough]
  exact Change.result_map_error (result_sign_spent active spent request keys factor) _

theorem result_confirmRecovery_spent (active : s.activeRecord = .ok record)
    (spent : record.counter.next = .error (.wrongState .counterExhausted)) {code : String}
    {keys : UnlockKeys} {factor : SignatureFactor} (isCode : Code.isRecovery code = true)
    (factors : 2 ≤ factor.count) :
    ∃ a', (confirmRecovery code keys factor).result s a
      = ((.error (.wrongState .counterExhausted), s), a') := by
  obtain ⟨a', parsed⟩ := Code.gives_parseRecovery isCode a
  have enough : ¬factor.count < 2 := by omega
  unfold confirmRecovery
  rw [Change.result_object_bind, Change.result_checked_bind, active]
  dsimp only
  rw [Change.result_liftM_bind parsed, if_neg enough, Change.result_bind,
    result_sign_spent active spent]
  exact ⟨a', rfl⟩

end Session

theorem Operation.needsActive_of_asks {op : Operation} (asks : op.asks.isSome = true) :
    op.needsActive = true := by
  cases op with
  | sign => rfl
  | requestVault => rfl
  | confirmRecovery => rfl
  | _ => cases asks

/-- A call for a signature that passes its own checks is refused for the state. -/
theorem Operation.result_spent {op : Operation} {record : Record} (asks : op.asks.isSome = true)
    (stage : s.stage = .activated record)
    (spent : record.counter.next = .error (.wrongState .counterExhausted))
    (reached : record.blocked = true ∨ op.admissible = true) (a : Ambient) :
    ∃ a', op.run.result s a = ((.error record.refusal, s), a') := by
  unfold Record.refusal
  by_cases blocked : record.blocked = true
  · -- A blocked activation does not get as far as its counter.
    have refused : s.activeRecord = .error (.wrongState .blocked) := by
      unfold Session.activeRecord
      rw [stage]
      exact if_pos blocked
    rw [if_pos blocked]
    exact ⟨a, op.result_inactive (needsActive_of_asks asks) refused a⟩
  · have active : s.activeRecord = .ok record :=
      Session.activeRecord_eq_ok_iff.2 ⟨stage, Bool.eq_false_iff.2 blocked⟩
    have passes := reached.resolve_left blocked
    rw [if_neg blocked]
    cases op with
    | sign request keys factor =>
      exact ⟨a, Change.result_map_error (Session.result_sign_spent active spent _ _ _) _⟩
    | requestVault request keys factor =>
      have factors : 2 ≤ factor.count := of_decide_eq_true passes
      exact ⟨a, Change.result_map_error (Session.result_requestVault_spent active spent factors) _⟩
    | confirmRecovery code keys factor =>
      rw [admissible, Bool.and_eq_true] at passes
      obtain ⟨a', refused⟩ := Session.result_confirmRecovery_spent active spent passes.1
        (of_decide_eq_true passes.2)
      exact ⟨a', Change.result_map_error refused _⟩
    | _ => cases asks

/-- A call for a signature fails once the counter has no next value, whatever its arguments. -/
theorem Operation.fails_of_spent {op : Operation} {record : Record} (asks : op.asks.isSome = true)
    (stage : s.stage = .activated record)
    (spent : record.counter.next = .error (.wrongState .counterExhausted)) (a : Ambient) :
    ∃ e a', op.run.result s a = ((.error e, s), a') := by
  -- Had the call ended well, its transition would have found a next value.
  cases ended : op.run.result s a with
  | mk r a' =>
    obtain ⟨r, t⟩ := r
    cases r with
    | error e =>
      obtain rfl := op.atomic_run s a e t a' ended
      exact ⟨e, a', rfl⟩
    | ok reply =>
      obtain ⟨⟨request, keys, factor⟩, asked⟩ := Option.isSome_iff_exists.1 asks
      obtain ⟨found, counter, _, -, signs, -⟩ := (Transition.of_gives ended).signs_of_asks asked
      have same := Stage.activated.inj
        (stage.symm.trans (Session.activeRecord_eq_ok_iff.1 signs.active).1)
      have next := signs.counter
      rw [← same, spent] at next
      cases next

/-! ## The discipline -/

/-- A turn signed at a counter: its answer carries the signature of the keys that were unlocked,
over the canonical data, both taken at that counter and its version. -/
def Turn.SignedAt (turn : Turn) (counter : Counter) : Prop :=
  ∃ request keys factor reply signature record found,
    turn.operation.asks = some (request, keys, factor) ∧ turn.result = .ok reply
      ∧ reply.signature? = some signature
      ∧ turn.before.activeRecord = .ok record ∧ record.counter = counter
      ∧ (turn.before.unlockSignatureKeys record keys factor).Returns found
      ∧ Signature.compute found counter counter.version (Bytes.ofText
          (request.onlineText signature.nonce counter turn.before.setup.applicationSecret))
        = .ok signature.value
      ∧ signature.version = counter.version.header

/-- A turn was refused for want of a next counter value, or for its own arguments before that. -/
def Turn.Refused (turn : Turn) (record : Record) : Prop :=
  turn.after = turn.before ∧ ∃ e, turn.result = .error e
    ∧ (record.blocked = true ∨ turn.operation.admissible = true → e = record.refusal)

theorem Call.signedAt_of_signed {call : Call} {record : Record} (held : s.record? = some record)
    (h : (call.turn s).signed = true) : (call.turn s).SignedAt record.counter := by
  obtain ⟨request, keys, factor, reply, found, _, signature, asks, result, made, signs, -⟩ :=
    Call.signs_of_signed h
  have stage := (Session.activeRecord_eq_ok_iff.1 signs.active).1
  obtain rfl := Option.some.inj (held.symm.trans (Session.record?_eq_some_iff.2 stage))
  obtain ⟨unlocked, reached, computed⟩ := signs.value
  exact ⟨request, keys, factor, reply, signature, record, unlocked, asks, result, made, signs.active,
    rfl, reached.returns, computed, signs.header.1⟩

theorem Call.refused_of_spent {call : Call} {record : Record} (held : s.record? = some record)
    (asks : call.operation.asks.isSome = true)
    (spent : record.counter.next = .error (.wrongState .counterExhausted)) :
    (call.turn s).Refused record := by
  have stage := Session.record?_eq_some_iff.1 held
  obtain ⟨e, a', failed⟩ := Operation.fails_of_spent asks stage spent call.ambient
  have result : (call.turn s).result = .error e := congrArg (fun r => r.1.1) failed
  have after : (call.turn s).after = s := congrArg (fun r => r.1.2) failed
  refine ⟨after, e, result, fun reached => ?_⟩
  obtain ⟨_, refused⟩ := Operation.result_spent asks stage spent reached call.ambient
  have same := failed.symm.trans refused
  simpa using congrArg (fun r => r.1.1) same

/-- What a history has made of the counter at one of its turns that signed. -/
theorem Session.signed_turn {record : Record} {calls : List Call} {earlier later : List Turn}
    {turn : Turn} (held : s.record? = some record)
    (keeps : ∀ call ∈ calls, call.operation.keepsProtocol = true)
    (place : s.history calls = earlier ++ turn :: later) (signed : turn.signed = true) :
    ∃ counter next, record.counter.advance (signatures earlier) = .ok counter
      ∧ counter.next = .ok next ∧ turn.SignedAt counter := by
  obtain ⟨before, call, rest, rfl, rfl, rfl⟩ := exists_of_history_eq place
  have keeps' : ∀ c ∈ before, c.operation.keepsProtocol = true :=
    fun c hc => keeps c (List.mem_append_left _ hc)
  obtain ⟨counter, advanced, final⟩ := counter_run keeps' held
  obtain ⟨_, _, _, _, found, next, _, -, -, -, signs, -⟩ := Call.signs_of_signed signed
  have here := record?_eq_some_iff.2 (activeRecord_eq_ok_iff.1 signs.active).1
  have same := final found here
  exact ⟨counter, next, advanced, same ▸ signs.counter, same ▸ Call.signedAt_of_signed here signed⟩

theorem Session.settled_after {calls : List Call}
    (keeps : ∀ call ∈ calls, call.operation.keepsProtocol = true)
    (settled : s.stage.settled = true) : (s.after calls).stage.settled = true := by
  have step : ∀ (s : Session) op reply s', op.keepsProtocol = true → s.stage.settled = true →
      Transition s op reply s' → s'.stage.settled = true := by
    intro s op reply s' keeps settled moved
    exact (moved.counter_step keeps settled).1
  exact preserved step settled keeps

theorem Session.unsigned_turn {calls : List Call} {earlier later : List Turn} {turn : Turn}
    (settled : s.stage.settled = true)
    (keeps : ∀ call ∈ calls, call.operation.keepsProtocol = true)
    (place : s.history calls = earlier ++ turn :: later) (unsigned : turn.signed = false) :
    turn.before.CounterMoves turn.after false := by
  obtain ⟨before, call, rest, rfl, rfl, rfl⟩ := exists_of_history_eq place
  have settled' : (s.after before).stage.settled = true :=
    settled_after (fun c hc => keeps c (List.mem_append_left _ hc)) settled
  have own : call.operation.keepsProtocol = true :=
    keeps call (List.mem_append_right _ List.mem_cons_self)
  have moves := (Call.counter_turn own settled').2
  rw [unsigned] at moves
  exact moves

theorem Counter.next_last :
    (linear (UInt64.ofNat (UInt64.size - 1))).next = .error (.wrongState .counterExhausted) := rfl

/-- **The counter of an activation follows its signatures.** Along every history that neither
upgrades, resets nor restores, the counter is the one the activation started from, moved once for
each signature given out; each signature is made at the value its turn finds; no other call and no
failed one moves it; and a numeric counter gives out each of its values at most once and then
refuses. -/
theorem Session.counter_discipline {record : Record} {calls : List Call}
    (held : s.record? = some record)
    (keeps : ∀ call ∈ calls, call.operation.keepsProtocol = true) :
    (∀ found, (s.after calls).record? = some found →
      record.counter.advance (signatures (s.history calls)) = .ok found.counter)
    ∧ (∀ earlier turn later, s.history calls = earlier ++ turn :: later →
      (turn.signed = true → ∃ counter,
        record.counter.advance (signatures earlier) = .ok counter ∧ turn.SignedAt counter)
      ∧ (turn.signed = false → turn.before.CounterMoves turn.after false)
      ∧ (turn.operation.asks.isSome = true → ∀ before, turn.before.record? = some before →
          before.counter = .linear (UInt64.ofNat (UInt64.size - 1)) → turn.Refused before))
    ∧ ∀ value, record.counter = .linear value →
      signatures (s.history calls) ≤ UInt64.size - 1 - value.toNat
      ∧ ∀ earlier turn later, s.history calls = earlier ++ turn :: later → turn.signed = true →
        value.toNat + signatures earlier < UInt64.size - 1
        ∧ turn.SignedAt (.linear (value + UInt64.ofNat (signatures earlier))) := by
  refine ⟨?_, ?_, ?_⟩
  · intro found hf
    obtain ⟨counter, advanced, final⟩ := counter_run keeps held
    rw [advanced, final found hf]
  · intro earlier turn later place
    refine ⟨fun signed => ?_, unsigned_turn (settled_of_record? held) keeps place, ?_⟩
    · obtain ⟨counter, _, advanced, -, signedAt⟩ := signed_turn held keeps place signed
      exact ⟨counter, advanced, signedAt⟩
    · intro asks before here last
      obtain ⟨_, call, _, -, -, rfl⟩ := exists_of_history_eq place
      exact Call.refused_of_spent here asks (last ▸ Counter.next_last)
  · intro value start
    refine ⟨?_, fun earlier turn later place signed => ?_⟩
    · obtain ⟨counter, advanced, -⟩ := counter_run keeps held
      rw [start, Counter.advance_linear] at advanced
      split at advanced
      · omega
      · cases advanced
    · obtain ⟨counter, next, advanced, more, signedAt⟩ := signed_turn held keeps place signed
      rw [start, Counter.advance_linear] at advanced
      split at advanced
      · next small =>
        obtain rfl := Except.ok.inj advanced
        have room := Counter.lt_of_next more
        have number : (value + UInt64.ofNat (signatures earlier)).toNat
            = value.toNat + signatures earlier := by
          rw [UInt64.toNat_add, UInt64.toNat_ofNat', Nat.add_mod_mod]
          exact Nat.mod_eq_of_lt small
        exact ⟨by omega, signedAt⟩
      · cases advanced

theorem Session.unlocks_counting (value : UInt64) :
    ∃ record, (Session.counting value).activeRecord = .ok record ∧ record.counter = .linear value
      ∧ (Session.counting value).Unlocks record { possession := some SymmetricKey.ones.bytes }
        .possession [.ones] :=
  ⟨_, rfl, rfl, rfl, .ones, none, .ones, [], [], rfl, rfl,
    StoredKey.opens_enclosed .ones .ones none .zero .zero, rfl, rfl, rfl⟩

/-- With one value left besides the last, two requests that could each be signed give one
signature. -/
theorem Session.signatures_counting :
    let s := Session.counting (UInt64.ofNat (UInt64.size - 2))
    let request : Request := ⟨"POST", "/payment", [], none⟩
    let keys : UnlockKeys := { possession := some SymmetricKey.ones.bytes }
    let a : Ambient := ⟨⟨[], 7⟩, 0, []⟩
    let calls : List Call := [⟨.sign request keys .possession, a⟩, ⟨.changePassword ⟨[]⟩ ⟨[]⟩, a⟩,
      ⟨.sign request keys .possession, a⟩]
    s.record?.isSome = true ∧ (∀ call ∈ calls, call.operation.keepsProtocol = true)
      ∧ signatures (s.history calls) = 1 := by
  intro s request keys a calls
  have keeps : ∀ call ∈ calls, call.operation.keepsProtocol = true := by
    simp [calls, Operation.keepsProtocol]
  obtain ⟨record, active, counter, unlocks⟩ := unlocks_counting (UInt64.ofNat (UInt64.size - 2))
  have held := record?_eq_some_iff.2 (activeRecord_eq_ok_iff.1 active).1
  refine ⟨rfl, keeps, Nat.le_antisymm ?_ ?_⟩
  · exact ((counter_discipline held keeps).2.2 _ counter).1
  · have next : record.counter.next = .ok (.linear (UInt64.ofNat (UInt64.size - 1))) := by
      rw [counter]
      rfl
    have valid : request.validate = .ok () := rfl
    obtain ⟨signature, a', signs⟩ := exists_gives_sign active next valid rfl unlocks a
    have gives :
        (Operation.sign request keys .possession).run.Gives s a (.signature signature) _ a' :=
      Change.gives_map.2 ⟨signature, signs, rfl⟩
    have signed : (Call.turn ⟨.sign request keys .possession, a⟩ s).signed = true := by
      rw [Turn.signed, Call.result_of_gives gives]
      rfl
    exact List.countP_pos_iff.2 ⟨_, List.mem_cons_self, signed⟩

end DeviceAuth
