import Mathlib.Data.List.DropRight
import DeviceAuth.Proofs.Session.Recovery

/-!
# Which codes are remembered

A record remembers the digests of confirmed codes, sixteen of them at the most. A code that is known is
not remembered again, and for a new one the oldest makes room. `Session.Confirming` follows an activation
from its commitment and writes down, without any bound, the digests of all codes that were newly
confirmed on the way. `Session.confirmed_window` compares the two: the record holds the last sixteen of
what was written down, none of them twice and never the code that came with the activation. What is
forgotten is newly confirmed when it comes again, so the list that is written down may hold a digest
many times, only not within sixteen.
-/

set_option autoImplicit false

namespace DeviceAuth

/-! ## The last sixteen -/

namespace Record

variable {record : Record} {noted : List (Octets 32)} {digest : Octets 32}

/-- A record remembers the last of the digests that were noted, none of them twice, and not the one that
is bound to it. -/
structure Window (record : Record) (noted : List (Octets 32)) : Prop where
  latest : record.confirmedCodes = noted.rtake confirmedLimit
  distinct : record.confirmedCodes.Nodup
  unbound : ∀ digest ∈ record.confirmedCodes, record.boundCode ≠ some digest

/-- The last sixteen of a longer list, from the last sixteen before. -/
theorem rtake_concat (noted : List (Octets 32)) (digest : Octets 32) :
    (noted ++ [digest]).rtake confirmedLimit
      = (if confirmedLimit ≤ (noted.rtake confirmedLimit).length then
          (noted.rtake confirmedLimit).drop 1 else noted.rtake confirmedLimit) ++ [digest] := by
  have length : (noted.rtake confirmedLimit).length = min confirmedLimit noted.length := by
    rw [List.rtake, List.length_drop]
    omega
  have shorter : (noted ++ [digest]).rtake confirmedLimit = noted.rtake 15 ++ [digest] :=
    List.rtake_concat_succ ..
  rw [shorter, length]
  congr 1
  unfold confirmedLimit List.rtake
  split
  · rw [List.drop_drop]
    congr 1
    omega
  · have few : noted.length ≤ 15 := by omega
    have none : noted.length - 15 = 0 ∧ noted.length - 16 = 0 := by omega
    rw [none.1, none.2]

theorem Window.length (w : record.Window noted) : record.confirmedCodes.length ≤ confirmedLimit := by
  rw [w.latest, List.rtake, List.length_drop]
  omega

/-- **Remembering a code notes it**, unless the code was known. -/
theorem Window.remember (w : record.Window noted) (digest : Octets 32) :
    (record.rememberCode digest).Window
      (noted ++ if record.knowsCode digest = true then [] else [digest]) := by
  by_cases known : record.knowsCode digest = true
  · rw [if_pos known, rememberCode_of_known known, List.append_nil]
    exact w
  · have unknown : record.knowsCode digest = false := by simpa using known
    have codes := rememberCode_of_unknown unknown
    have bound : (record.rememberCode digest).boundCode = record.boundCode := by
      unfold rememberCode
      rw [unknown]
      rfl
    rw [knowsCode_iff, not_or] at known
    obtain ⟨apart, fresh⟩ := known
    let kept := if confirmedLimit ≤ record.confirmedCodes.length then record.confirmedCodes.drop 1
      else record.confirmedCodes
    have sub : kept.Sublist record.confirmedCodes := by
      simp only [kept]
      split
      · exact List.drop_sublist 1 _
      · exact List.Sublist.refl _
    rw [if_neg (by simp [unknown])]
    constructor
    · rw [codes, rtake_concat, ← w.latest]
    · rw [codes]
      refine List.Nodup.append (w.distinct.sublist sub) (List.nodup_singleton digest) ?_
      intro other inside new
      rw [List.mem_singleton.1 new] at inside
      exact fresh (sub.subset inside)
    · intro other inside
      rw [codes] at inside
      rw [bound]
      rcases List.mem_append.1 inside with old | new
      · exact w.unbound other (sub.subset old)
      · rw [List.mem_singleton.1 new]
        exact apart

theorem Window.of_differs {next : Record} {parts : List Part} (w : record.Window noted)
    (differs : record.DiffersOnlyIn next parts) (outside : .confirmedCodes ∉ parts) :
    next.Window noted := by
  have codes : next.confirmedCodes = record.confirmedCodes :=
    differs.unchanged Record.confirmedCodes (if_neg outside)
  have bound : next.boundCode = record.boundCode := differs.unchanged Record.boundCode rfl
  constructor
  · rw [codes]
    exact w.latest
  · rw [codes]
    exact w.distinct
  · rw [codes, bound]
    exact w.unbound

end Record

/-! ## Following an activation -/

/-- The digests that a call has newly confirmed: one, if it was a confirmation of a code that was not
known. -/
def Turn.newlyConfirmed (turn : Turn) : List (Octets 32) :=
  match turn.operation, turn.result with
  | .confirmRecovery code _ _, .ok (.confirmation made) =>
    if made.alreadyConfirmed = true then [] else [Code.digest code]
  | _, _ => []

theorem Turn.newlyConfirmed_of_error {turn : Turn} {e : Failure} (failed : turn.result = .error e) :
    turn.newlyConfirmed = [] := by
  unfold newlyConfirmed
  rw [failed]
  split
  · next ok => cases ok
  · rfl

theorem Call.newlyConfirmed_of_confirm {s : Session} {a : Ambient} {code : String} {keys : UnlockKeys}
    {factor : SignatureFactor} {made : RecoveryConfirmation}
    (result : (Call.turn ⟨.confirmRecovery code keys factor, a⟩ s).result = .ok (.confirmation made)) :
    (Call.turn ⟨.confirmRecovery code keys factor, a⟩ s).newlyConfirmed
      = if made.alreadyConfirmed = true then [] else [Code.digest code] := by
  unfold Turn.newlyConfirmed
  rw [result]
  rfl

/-- An activation has come from one session to another, and these are the digests of the codes that were
newly confirmed on the way, the earliest first. Anything may have been called that leaves the activation
in place, and its state may have been stored and restored, perhaps in another session. -/
inductive Session.Confirming (first : Session) : Session → List (Octets 32) → Prop
  | start : Confirming first first []
  | called {s : Session} {noted : List (Octets 32)} (confirming : Confirming first s noted)
      (call : Call) (inPlace : call.LeavesInPlace s) :
      Confirming first (call.turn s).after (noted ++ (call.turn s).newlyConfirmed)
  | restored {s t t' : Session} {noted : List (Octets 32)} {a a' : Ambient}
      (confirming : Confirming first s noted) (settled : s.stage.settled = true)
      (fits : s.stored.Fits) (ran : (Session.deserialize s.serialize).Gives t a () t' a') :
      Confirming first t' noted

namespace Session

variable {s s' first current : Session} {noted : List (Octets 32)} {op : Operation} {reply : Reply}
  {code : String} {keys : UnlockKeys} {factor : SignatureFactor} {confirmation : RecoveryConfirmation}
  {after : Session} {a a' b b' : Ambient}

/-- Once there is a record, it remembers the last of the digests that were noted. -/
structure Tracks (s : Session) (noted : List (Octets 32)) : Prop where
  settled : s.stage.settled = true
  window : ∀ record, s.stage = .activated record → record.Window noted

theorem Tracks.of_leadsTo (t : s.Tracks noted) (led : s.LeadsTo op s')
    (outside : .confirmedCodes ∉ op.parts) : s'.Tracks noted := by
  have settled := t.settled
  cases stage : s.stage with
  | empty | begun | established =>
    rw [stage] at settled
    cases settled
  | activated record =>
    rcases led.of_activated stage with gone | ⟨next, reached, differs⟩
    · constructor
      · rw [gone]
        rfl
      · intro record activated
        cases gone.symm.trans activated
    · constructor
      · rw [reached]
        rfl
      · intro found activated
        obtain rfl := Stage.activated.inj (reached.symm.trans activated)
        exact (t.window record stage).of_differs differs outside
  | removed =>
    rw [led.of_removed stage]
    exact t

theorem Tracks.confirm (t : s.Tracks noted)
    (moved : Transition s (.confirmRecovery code keys factor) (.confirmation confirmation) s') :
    s'.Tracks (noted ++ if confirmation.alreadyConfirmed = true then [] else [Code.digest code]) := by
  cases moved with
  | @recoveryConfirmed _ _ _ record counter _ factors isCode signs =>
    refine ⟨rfl, ?_⟩
    rintro _ ⟨⟩
    obtain ⟨latest, distinct, unbound⟩ := t.window record (activeRecord_eq_ok_iff.1 signs.active).1
    have advanced : ({ record with counter } : Record).Window noted := ⟨latest, distinct, unbound⟩
    exact advanced.remember (Code.digest code)
  | observed observes => cases observes

/-- **One call keeps what is remembered and what is noted in step.** -/
theorem Tracks.turn (t : s.Tracks noted) {call : Call} (inPlace : call.LeavesInPlace s) :
    (call.turn s).after.Tracks (noted ++ (call.turn s).newlyConfirmed) := by
  obtain ⟨op, a⟩ := call
  cases result : (Call.turn ⟨op, a⟩ s).result with
  | error e =>
    obtain ⟨_, failed⟩ := Call.failed_of_result result
    rw [Turn.newlyConfirmed_of_error result, List.append_nil, op.atomic_run s a e _ _ failed]
    exact t
  | ok reply =>
    obtain ⟨_, gives⟩ := Call.gives_of_result result
    cases op with
    | confirmRecovery code keys factor =>
      obtain ⟨made, ran, rfl⟩ := Change.gives_map.1 gives
      rw [Call.newlyConfirmed_of_confirm result]
      exact t.confirm (Transition.of_confirmRecovery ran)
    | reset => exact inPlace.elim
    | deserialize bytes =>
      rcases Call.keeps_or_same inPlace with keeps | same
      · cases keeps
      · rw [same]
        exact (List.append_nil noted).symm ▸ t
    | _ =>
      rw [show Turn.newlyConfirmed _ = [] from rfl, List.append_nil]
      exact t.of_leadsTo ((Transition.of_gives gives).leads rfl) (by simp [Operation.parts])

theorem Tracks.of_commit {u : Unit} (committed : (commit keys).Gives s a u first a') :
    first.Tracks [] := by
  cases Transition.of_commit committed with
  | committed established accepted kept =>
    refine ⟨rfl, ?_⟩
    rintro _ ⟨⟩
    constructor
    · rfl
    · exact List.nodup_nil
    · intro digest inside
      cases inside
  | observed observes => cases observes

/-- **What is remembered and what is noted stay in step**, however long it goes on. -/
theorem Confirming.tracks (confirming : first.Confirming current noted) (start : first.Tracks []) :
    current.Tracks noted := by
  induction confirming with
  | start => exact start
  | called _ call inPlace ih => exact ih.turn inPlace
  | restored _ settled fits ran ih =>
    rw [eq_of_gives_deserialize settled fits ran]
    exact ⟨settled, ih.window⟩

theorem run_of_confirm
    (confirmed : (confirmRecovery code keys factor).Gives current b confirmation after b') :
    (Operation.confirmRecovery code keys factor).run.Gives current b (.confirmation confirmation)
      after b' :=
  Change.gives_map.2 ⟨confirmation, confirmed, rfl⟩

theorem Confirming.confirm (confirming : first.Confirming current noted)
    (confirmed : (confirmRecovery code keys factor).Gives current b confirmation after b') :
    first.Confirming after
      (noted ++ if confirmation.alreadyConfirmed = true then [] else [Code.digest code]) := by
  have ran := run_of_confirm confirmed
  have called := confirming.called ⟨.confirmRecovery code keys factor, b⟩ True.intro
  rw [Call.newlyConfirmed_of_confirm (Call.result_of_gives ran), Call.after_of_gives ran] at called
  exact called

/-- What is sent is the body for the code and a signature of it, whether the code comes with its mark
or without. -/
theorem request_of_confirm
    (confirmed : (confirmRecovery code keys factor).Gives current b confirmation after b') :
    ∃ c signed c', (Recovery.confirmationBody code).Gives b confirmation.body c
      ∧ (sign ⟨"POST", Recovery.confirmUri, confirmation.body, none⟩ keys factor).Gives current c
        confirmation.signature signed c' := by
  unfold confirmRecovery at confirmed
  simp [and_assoc] at confirmed
  obtain ⟨-, spelled, c, parsed, -, signature, signed, c', made, record, -, confirmed⟩ := confirmed
  have body : (Recovery.confirmationBody code).Gives b (Bytes.ofText (Recovery.bodyText spelled)) c :=
    Core.gives_bind.2 ⟨spelled, c, parsed, Core.gives_pure.2 ⟨rfl, rfl⟩⟩
  have same : confirmation.body = Bytes.ofText (Recovery.bodyText spelled)
      ∧ confirmation.signature = signature := by
    split at confirmed
    · obtain ⟨rfl, -, -⟩ := confirmed
      simp
    · obtain ⟨-, -, rfl⟩ := confirmed
      simp
  rw [same.1, same.2]
  exact ⟨c, signed, c', body, made⟩

/-- **The window of confirmed codes.** From the commitment on, the record holds the last sixteen of the
digests that were newly confirmed, in their order. No digest is there twice, and the code that came with
the activation is not there. A confirmation finds a code known when its digest is one of these, and asks
for what it sends with the signature of exactly that. What fails changes nothing, and what is stored is
restored. -/
theorem confirmed_window {u : Unit} (committed : (commit keys).Gives s a u first a')
    (confirming : first.Confirming current noted) :
    (∀ record, current.record? = some record →
      record.confirmedCodes = noted.rtake Record.confirmedLimit ∧ record.confirmedCodes.Nodup
      ∧ record.confirmedCodes.length ≤ 16
      ∧ ∀ digest ∈ record.confirmedCodes, record.boundCode ≠ some digest)
    ∧ (∀ code keys factor confirmation after b b',
      (confirmRecovery code keys factor).Gives current b confirmation after b' →
      (∃ record, current.record? = some record
        ∧ (confirmation.alreadyConfirmed = true ↔ record.boundCode = some (Code.digest code)
          ∨ Code.digest code ∈ record.confirmedCodes))
      ∧ ∃ c signed c', (Recovery.confirmationBody code).Gives b confirmation.body c
        ∧ (sign ⟨"POST", Recovery.confirmUri, confirmation.body, none⟩ keys factor).Gives current c
          confirmation.signature signed c')
    ∧ (∀ (op : Operation) b error after b',
      op.run.result current b = ((.error error, after), b') → after = current)
    ∧ ∀ (t : Session) b, current.stored.Fits →
      ∃ t' b', (deserialize current.serialize).Gives t b () t' b' ∧ t'.record? = current.record? := by
  have tracks := confirming.tracks (Tracks.of_commit committed)
  refine ⟨?_, ?_, ?_, ?_⟩
  · intro record active
    have window := tracks.window record (record?_eq_some_iff.1 active)
    exact ⟨window.latest, window.distinct, window.length, window.unbound⟩
  · intro code keys factor confirmation after b b' confirmed
    obtain ⟨record, _, activated, -, known, -⟩ := record_of_confirm confirmed
    refine ⟨⟨record, record?_eq_some_iff.2 activated, ?_⟩, request_of_confirm confirmed⟩
    rw [known]
    exact Record.knowsCode_iff
  · intro op b error after b' failed
    exact op.atomic_run current b error after b' failed
  · intro t b fits
    obtain ⟨b', ran⟩ := gives_deserialize (Stored.decode_encode fits) t b
    rw [stageOf_stored_of_settled tracks.settled] at ran
    exact ⟨_, b', ran, rfl⟩

/-- A new activation that a recovery code came with, and a code that is confirmed twice. -/
theorem exists_confirmations {data : RecoveryData} (valid : data.IsValid)
    (isCode : Code.isRecovery code = true) (a : Ambient) :
    let keys : UnlockKeys := ⟨some SymmetricKey.ones.bytes, none, some ⟨[1, 2, 3, 4]⟩⟩
    let answer := ActivationAnswer.ofServer .unit "activation" .zero (some data)
    ∃ begun outcome established first once current record confirmation repeated a₁ a₂ a₃ a₄ a₅,
      (establish answer).Gives begun a₁ outcome established a₂
      ∧ (commit keys).Gives established a₂ () first a₃
      ∧ (confirmRecovery code keys .possessionKnowledge).Gives first a₃ confirmation once a₄
      ∧ (confirmRecovery code keys .possessionKnowledge).Gives once a₄ repeated current a₅
      ∧ current.record? = some record ∧ current.stored.Fits := by
  intro keys answer
  obtain ⟨_, _, _, _, _, _, _, a₃, -, answered, committed⟩ := exists_commitment valid a
  have accepted : locks keys = .ok ⟨.ones, ⟨[1, 2, 3, 4]⟩, none⟩ := rfl
  obtain ⟨h, iv, exchange, k⟩ := keeps_of_commit accepted committed
  obtain ⟨_, _, active, counter⟩ := exists_activeRecord_of_commit committed
  obtain ⟨_, _, a₄, _, _, confirmed, k, active, counter⟩ :=
    k.exists_gives_confirmRecovery active counter isCode a₃
  obtain ⟨_, _, _, record, _, again, k, active, -⟩ :=
    k.exists_gives_confirmRecovery active counter isCode a₄
  have short : (Bytes.ofText h.activationId).length < 2 ^ 64 := by
    rw [activationId_of_establish answered exchange]
    show (Bytes.ofText "activation").length < 2 ^ 64
    decide
  exact ⟨_, _, _, _, _, _, record, _, _, _, _, _, _, _, answered, committed, confirmed, again,
    record?_eq_some_iff.2 (activeRecord_eq_ok_iff.1 active).1, k.fits short⟩

/-- One code came with an activation, and another one is confirmed twice. It is noted once, and the
record that remembers it once is restored into another session. -/
theorem window_of_repeated :
    let code := "VVVVV-VVVVV-VVVVV-VTFVA"
    let t := counting 0
    let a : Ambient := ⟨⟨[], 7⟩, 0, []⟩
    ∃ keys s first once current record restored confirmation repeated b₁ b₂ b₃ b₄ c,
      (commit keys).Gives s b₁ () first b₂
      ∧ (confirmRecovery code keys .possessionKnowledge).Gives first b₂ confirmation once b₃
      ∧ confirmation.alreadyConfirmed = false
      ∧ (confirmRecovery code keys .possessionKnowledge).Gives once b₃ repeated current b₄
      ∧ repeated.alreadyConfirmed = true
      ∧ first.Confirming current [Code.digest code] ∧ current.record? = some record
      ∧ record.boundCode = some (Code.digest "AAAAA-AAAAA-AAAAA-AAAAA")
      ∧ record.confirmedCodes = [Code.digest code]
      ∧ (deserialize current.serialize).Gives t a () restored c ∧ restored.record? = some record := by
  intro code t a
  let came := "AAAAA-AAAAA-AAAAA-AAAAA"
  have own : Code.isActivation code = true := by decide +kernel
  have isCode : Code.isRecovery code = true := Code.isRecovery_of_isActivation own
  have other : Code.isActivation came = true := by decide +kernel
  have valid : (⟨came, "0123456789"⟩ : RecoveryData).IsValid :=
    ⟨Code.isRecovery_of_isActivation other, by decide +kernel⟩
  have different : Code.digest came ≠ Code.digest code := by decide +kernel
  have plain : Code.digest came = sha256 (Bytes.ofText came) := by
    unfold Code.digest
    rw [Code.unmarked_of_isActivation other]
  obtain ⟨_, _, established, first, once, current, record, confirmation, repeated, _, b₁, b₂, b₃, b₄,
    answered, committed, confirmed, again, found, fits⟩ := exists_confirmations valid isCode a
  -- What came with the activation is still bound to it.
  have start := bound_of_establish answered rfl
  have lasts : established.Lasts first := Lasts.start.commit committed
  have kept := (lasts.of_gives rfl (run_of_confirm confirmed)).of_gives rfl (run_of_confirm again)
  -- The first time the code is neither that one nor remembered.
  have fresh : confirmation.alreadyConfirmed = false := by
    obtain ⟨⟨record, active, known⟩, -⟩ :=
      (confirmed_window committed .start).2.1 _ _ _ _ _ _ _ confirmed
    have activated := record?_eq_some_iff.1 active
    rw [Bool.eq_false_iff, Ne, known, (lasts.bound start).of_activated activated,
      confirmedCodes_of_commit committed activated]
    rintro (same | member)
    · exact different (plain.trans (Option.some.inj same))
    · cases member
  have noted : first.Confirming once [Code.digest code] := by
    have confirming := Confirming.start.confirm confirmed
    rw [fresh] at confirming
    exact confirming
  -- The second time it is remembered.
  have known : repeated.alreadyConfirmed = true := by
    obtain ⟨window, lookup, -⟩ := confirmed_window committed noted
    obtain ⟨⟨record, active, known⟩, -⟩ := lookup _ _ _ _ _ _ _ again
    rw [known, (window record active).1]
    exact .inr List.mem_cons_self
  have confirming : first.Confirming current [Code.digest code] := by
    have confirming := noted.confirm again
    rw [known] at confirming
    exact confirming
  have bound := (kept.bound start).of_activated (record?_eq_some_iff.1 found)
  obtain ⟨window, -, -, restores⟩ := confirmed_window committed confirming
  obtain ⟨restored, c, ran, same⟩ := restores t a fits
  exact ⟨_, _, first, once, current, record, restored, confirmation, repeated, b₁, b₂, b₃, b₄, c,
    committed, confirmed, fresh, again, known, confirming, found,
    bound.trans (congrArg some plain.symm), (window record found).1, ran, same.trans found⟩

end Session

end DeviceAuth
