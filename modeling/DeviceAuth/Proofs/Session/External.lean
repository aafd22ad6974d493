import DeviceAuth.Proofs.Session.ErrorOrder
import DeviceAuth.Proofs.Session.Frame
import DeviceAuth.Proofs.Session.Parallel

/-!
# The external encryption key

An activation either uses the external encryption key or does without it. Which of the two is decided
when it is committed, written into its record, and stored and restored with it; whether a session has
such a key is a matter of its setup. Both come together wherever a key is revealed or stored.

An activation that uses the key is out of reach in a session without it (`Operation.refused_of_sealed`),
and what fails there leaves no trace. A stay in such a session is therefore harmless: only what it did
without keys is left of it (`Session.stage_after_away`, `Session.restored_after_away`). An activation
that does without the key never asks for one, and whole histories are the same in sessions that differ
in nothing else (`Session.after_under`).
-/

set_option autoImplicit false

namespace DeviceAuth

variable {s s' t : Session} {op : Operation} {reply : Reply}

/-! ## Without the key -/

/-- Whether an operation reaches for the keys of a committed activation. -/
def Operation.reachesKeys : Operation → Bool
  | sign _ _ _ => true
  | requestVault _ _ _ => true
  | confirmRecovery _ _ _ => true
  | changePassword _ _ => true
  | addBiometry _ _ => true
  | signOffline _ _ _ => true
  | decodeStatus _ _ => true
  | unlockVault _ _ _ => true
  | deriveOnce _ _ _ _ => true
  | encryptor .activation _ _ => true
  | _ => false

/-- The activation of a session uses the external encryption key, unless it was removed since. -/
def Session.Sealed (s : Session) : Prop :=
  s.Carries (fun _ => False) fun record => record.usesExternal = true

theorem Session.sealed_of_stage {record : Record} (stage : s.stage = .activated record)
    (uses : record.usesExternal = true) : s.Sealed := by
  unfold Sealed Carries
  rw [stage]
  exact uses

theorem Session.Sealed.settled (h : s.Sealed) : s.stage.settled = true := by
  unfold Sealed Carries at h
  cases stage : s.stage with
  | activated record => rfl
  | removed => rfl
  | _ =>
    rw [stage] at h
    exact h.elim

/-- An activation goes on using the external encryption key. -/
theorem Session.Lasts.sealed {first : Session} (lasts : first.Lasts s) (h : first.Sealed) : s.Sealed := by
  refine lasts.carries (fun _ _ _ _ none => none.elim) ?_ h
  intro record next op differs uses
  exact (differs.unchanged Record.usesExternal rfl).trans uses

theorem Session.Sealed.externalFor {record : Record} (h : s.Sealed) (stage : s.stage = .activated record)
    (without : s.external = none) : s.externalFor record = .error (.wrongState .externalKeyMissing) := by
  unfold Sealed Carries at h
  rw [stage] at h
  have uses : record.usesExternal = true := h
  unfold Session.externalFor
  rw [if_pos uses, without]

/-- **Without the external encryption key of its activation a session refuses** whatever reaches for
keys. -/
theorem Operation.refused_of_sealed (h : s.Sealed) (without : s.external = none)
    (reaches : op.reachesKeys = true) : (op.faults s).Refused := by
  have missing {record : Record} (stage : s.stage = .activated record) :
      stateFaults (s.externalFor record) ≠ [] := by
    rw [h.externalFor stage without]
    exact List.cons_ne_nil _ _
  have active {f : Record → Faults}
      (last : ∀ record, (f record).external = stateFaults (s.externalFor record)) :
      (Faults.ofRecord s.activeRecord f).Refused := by
    refine Faults.refused_ofRecord (ofState_activeRecord s) fun record found => .inr (.inr ?_)
    rw [last record]
    exact missing (Session.activeRecord_eq_ok_iff.1 found).1
  cases op with
  | sign | requestVault | confirmRecovery | changePassword | addBiometry => exact active fun _ => rfl
  | signOffline | unlockVault | deriveOnce => exact active fun _ => rfl
  | decodeStatus =>
    refine Faults.refused_ofRecord (ofState_committedRecord s) fun record found => .inr (.inr ?_)
    exact missing (Session.committedRecord_eq_ok_iff.1 found)
  | encryptor scope =>
    cases scope with
    | application => cases reaches
    | activation => exact active fun _ => rfl
  | _ => cases reaches

/-- What is refused fails, and leaves the session as it was. -/
theorem Operation.fails_of_refused (h : (op.faults s).Refused) (a : Ambient) :
    ∃ e a', op.run.result s a = ((.error e, s), a') := by
  obtain ⟨e, rest, order⟩ := Faults.exists_first (.inl h)
  obtain ⟨a', failed⟩ := fails_first order a
  exact ⟨e, a', failed⟩

/-! ## A stay without the key -/

theorem Call.external_after (call : Call) (s : Session) : (call.turn s).after.external = s.external := by
  have only : (call.turn s).after = s.at (call.turn s).after.stage := Session.after_eq_at s [call]
  rw [only]
  rfl

theorem Session.serialize_of_same (same : t.stage = s.stage) : t.serialize = s.serialize := by
  unfold serialize stored
  rw [same]

/-- An operation that has no part in a record, and neither removes nor discards an activation, leaves
one alone. -/
theorem Transition.eq_of_settled (moved : Transition s op reply s') (settled : s.stage.settled = true)
    (keeps : op.discards = false) (idle : op.parts = []) (stays : op ≠ .remove) : s' = s := by
  cases moved with
  | begun stage | begunRecovery stage | established stage | committed stage =>
    rw [stage] at settled
    cases settled
  | removed => exact absurd rfl stays
  | removedAgain | observed => rfl
  | reset | restored => cases keeps
  | _ => cases idle

/-- What reaches for no keys and does not discard an activation does the same to it in every session. -/
theorem Call.stage_of_same {call : Call} (keeps : call.operation.discards = false)
    (free : call.operation.reachesKeys = false) (settled : s.stage.settled = true)
    (same : t.stage = s.stage) : (call.turn t).after.stage = (call.turn s).after.stage := by
  obtain ⟨op, a⟩ := call
  have alike (h : Change.Agree op.run op.run s t) :
      (Call.turn ⟨op, a⟩ t).after.stage = (Call.turn ⟨op, a⟩ s).after.stage := by
    obtain ⟨r, stage, a', left, right⟩ := h a
    have first : (Call.turn ⟨op, a⟩ s).after = s.at stage := congrArg (·.1.2) left
    have second : (Call.turn ⟨op, a⟩ t).after = t.at stage := congrArg (·.1.2) right
    rw [first, second]
    rfl
  have idle (parts : op.parts = []) (stays : op ≠ .remove) :
      (Call.turn ⟨op, a⟩ t).after.stage = (Call.turn ⟨op, a⟩ s).after.stage := by
    have still {r : Session} (there : r.stage.settled = true) : (Call.turn ⟨op, a⟩ r).after = r := by
      rcases (Call.mk op a).transition_or_unchanged r with ⟨reply, moved⟩ | unchanged
      · exact moved.eq_of_settled there keeps parts stays
      · exact unchanged
    rw [still settled, still (same.symm ▸ settled), same]
  cases op with
  | remove => exact alike ((Session.agree_remove same).map _)
  | applyStatus status => exact alike ((Session.agree_applyStatus same status).map _)
  | upgrade data => exact alike ((Session.agree_upgrade same data).map _)
  | removeBiometry => exact alike ((Session.agree_removeBiometry same).map _)
  | reset | deserialize => cases keeps
  | begin | beginRecovery | establish | commit => exact idle rfl nofun
  | serialize | verifySigned | encryptor => exact idle rfl nofun
  | _ => cases free

/-- **Of a stay without the key remains what it did without keys.** -/
theorem Session.stage_after_away {home away : Session} (sealed : away.Sealed)
    (without : away.external = none) (same : away.stage = home.stage) {calls : List Call}
    (keep : ∀ call ∈ calls, call.operation.discards = false) :
    (away.after calls).stage
      = (home.after (calls.filter fun call => !call.operation.reachesKeys)).stage := by
  induction calls generalizing home away with
  | nil => exact same
  | cons call calls ih =>
    have keeps := keep call List.mem_cons_self
    have later : ∀ c ∈ calls, c.operation.discards = false :=
      fun c hc => keep c (List.mem_cons_of_mem _ hc)
    cases reaches : call.operation.reachesKeys with
    | true =>
      obtain ⟨e, a', failed⟩ :=
        Operation.fails_of_refused (Operation.refused_of_sealed sealed without reaches) call.ambient
      have unchanged : (call.turn away).after = away := congrArg (·.1.2) failed
      rw [List.filter_cons_of_neg (by simp [reaches]), after, unchanged]
      exact ih sealed without same later
    | false =>
      have moved := Call.stage_of_same keeps reaches (same ▸ sealed.settled) same
      have still := (Lasts.start.called call keeps).sealed sealed
      rw [List.filter_cons_of_pos (by simp [reaches]), after, after]
      exact ih still ((call.external_after away).trans without) moved later

/-- An activation stays readable when nothing was written under a key. -/
theorem Session.fits_after (settled : s.stage.settled = true) (fits : s.stored.Fits) {calls : List Call}
    (keep : ∀ call ∈ calls, call.operation.discards = false ∧ call.operation.reachesKeys = false) :
    (s.after calls).stage.settled = true ∧ (s.after calls).stored.Fits := by
  let Kept (r : Session) : Prop := r.stage.settled = true ∧ r.stored.Fits
  have written {r : Session} {record : Record} (kept : Kept r) (stage : r.stage = .activated record) :
      record.Fits := by
    have fits := kept.2
    unfold stored at fits
    rw [stage] at fits
    exact fits
  have step : ∀ (r : Session) op reply r', op.discards = false ∧ op.reachesKeys = false → Kept r →
      Transition r op reply r' → Kept r' := by
    rintro r op reply r' ⟨keeps, free⟩ kept moved
    cases moved with
    | begun stage | begunRecovery stage | established stage | committed stage =>
      have there := kept.1
      rw [stage] at there
      cases there
    | removed | removedOnServer => exact ⟨rfl, True.intro⟩
    | removedAgain => exact kept
    | observed => exact kept
    | applied blocked stage =>
      have old := written kept stage
      exact ⟨rfl, old.activationId, old.serverKey, old.deviceKey, old.devicePrivate, old.keys,
        old.confirmedCodes⟩
    | upgraded active =>
      have old := written kept (activeRecord_eq_ok_iff.1 active).1
      exact ⟨rfl, old.activationId, old.serverKey, old.deviceKey, old.devicePrivate, old.keys,
        old.confirmedCodes⟩
    | biometryRemoved active =>
      have old := written kept (activeRecord_eq_ok_iff.1 active).1
      exact ⟨rfl, old.activationId, old.serverKey, old.deviceKey, old.devicePrivate,
        ⟨old.keys.possession, old.keys.knowledge, nofun, old.keys.transport, old.keys.salt⟩,
        old.confirmedCodes⟩
    | reset | restored => cases keeps
    | _ => cases free
  exact preserved step ⟨settled, fits⟩ keep

theorem Session.after_restore {bytes : Bytes} {stored : Stored} (h : Stored.decode bytes = .ok stored)
    (s : Session) (a : Ambient) (calls : List Call) :
    s.after (⟨.deserialize bytes, a⟩ :: calls) = (s.at (stageOf stored)).after calls := by
  obtain ⟨a', gives⟩ := gives_deserialize h s a
  exact after_cons_of_gives (Change.gives_map.2 ⟨(), gives, rfl⟩) calls

/-- **A stay without the key does no harm.** An activation that uses the external encryption key is
stored, restored in a session without it, stored there after any calls that do not discard it, and
restored in a session of its own setup. That session then goes on as if only those calls had been made
that reach for no keys, and as if they had been made at home. -/
theorem Session.restored_after_away {home away back : Session} {record : Record}
    (stage : home.stage = .activated record) (uses : record.usesExternal = true)
    (fits : home.stored.Fits) (opened : home.Opened) (other : back.Opened)
    (setup : back.setup = home.setup) (without : away.external = none) {calls : List Call}
    (keep : ∀ call ∈ calls, call.operation.discards = false) (a b : Ambient) :
    let out := away.after (⟨.deserialize home.serialize, a⟩ :: calls)
    let kept := home.after (calls.filter fun call => !call.operation.reachesKeys)
    out.serialize = kept.serialize ∧ back.after [⟨.deserialize out.serialize, b⟩] = kept := by
  intro out kept
  have sealed := sealed_of_stage stage uses
  have arrived : out = (away.at home.stage).after calls := by
    have read : Stored.decode home.serialize = .ok home.stored := Stored.decode_encode fits
    show away.after _ = _
    rw [after_restore read, stageOf_stored_of_settled sealed.settled]
  have same : out.stage = kept.stage := by
    have there : (away.at home.stage).Sealed := sealed
    have left : (away.at home.stage).stage = home.stage := rfl
    rw [arrived]
    exact stage_after_away there without left keep
  have free : ∀ call ∈ calls.filter fun call => !call.operation.reachesKeys,
      call.operation.discards = false ∧ call.operation.reachesKeys = false := by
    intro call among
    obtain ⟨made, free⟩ := List.mem_filter.1 among
    exact ⟨keep call made, by simpa using free⟩
  obtain ⟨settled, readable⟩ := fits_after sealed.settled fits free
  have written : out.serialize = kept.serialize := serialize_of_same same
  refine ⟨written, ?_⟩
  have settings : back.setup = kept.setup := by
    show back.setup = (home.after _).setup
    rw [after_eq_at home]
    exact setup
  have read : Stored.decode kept.serialize = .ok kept.stored := Stored.decode_encode readable
  rw [written, after_restore read, stageOf_stored_of_settled settled]
  exact (opened_after opened _).eq_at other settings

/-! ## Activations that do without the key -/

/-- Whether an operation leaves the external encryption key unused where it was: it commits no
activation, and restores none that uses the key. -/
def Operation.Neutral : Operation → Prop
  | commit _ => False
  | deserialize bytes =>
    ∀ record, Stored.decode bytes = .ok (.activated record) → record.usesExternal = false
  | _ => True

theorem Operation.Neutral.commits (neutral : op.Neutral) : op.commits = false := by
  cases op with
  | commit => exact neutral.elim
  | _ => rfl

/-- An activation goes on doing without the external encryption key. -/
theorem Transition.plain (moved : Transition s op reply s') (neutral : op.Neutral) (plain : s.Plain) :
    s'.Plain := by
  have here {found : Record} (active : s.activeRecord = .ok found) : found.usesExternal = false :=
    plain.of_active active
  have put {record next : Record} (unused : record.usesExternal = false)
      (same : next.usesExternal = record.usesExternal) : (s.at (.activated next)).Plain := by
    intro other stage
    obtain rfl := Stage.activated.inj stage
    exact same.trans unused
  cases moved with
  | committed => exact neutral.elim
  | @restored bytes stored decoded =>
    cases stored with
    | activated record => exact put (neutral record decoded) rfl
    | _ => nofun
  | signed signs => exact put (here signs.active) rfl
  | vaultRequested factors signs => exact put (here signs.active) rfl
  | recoveryConfirmed factors isCode signs =>
    exact put (here signs.active)
      ((Record.rememberCode_differs _ _ _).unchanged Record.usesExternal rfl)
  | applied blocked stage => exact put (plain _ stage) rfl
  | upgraded active => exact put (here active) rfl
  | passwordChanged active => exact put (here active) rfl
  | biometryRemoved active => exact put (here active) rfl
  | biometryAdded active => exact put (here active) rfl
  | removedAgain => exact plain
  | observed => exact plain
  | _ => nofun

variable {calls : List Call}

theorem Session.plain_after (plain : s.Plain) (neutral : ∀ call ∈ calls, call.operation.Neutral) :
    (s.after calls).Plain :=
  preserved (fun _ _ _ _ neutral plain moved => moved.plain neutral plain) plain neutral

/-- A call is answered alike under any external encryption key. -/
theorem Call.turn_under {call : Call} (plain : s.Plain) (stores : call.operation.commits = false)
    (bytes : Option Bytes) (external : Option SymmetricKey) :
    (call.turn (s.under bytes external)).result = (call.turn s).result
      ∧ (call.turn (s.under bytes external)).after = (call.turn s).after.under bytes external := by
  obtain ⟨r, stage, a', left, right⟩ :=
    call.operation.agree_run stores plain bytes external call.ambient
  unfold Call.turn
  rw [left, right]
  exact ⟨rfl, rfl⟩

/-- **Histories are the same under any external encryption key**, for an activation that does without
one. -/
theorem Session.after_under (plain : s.Plain) (neutral : ∀ call ∈ calls, call.operation.Neutral)
    (bytes : Option Bytes) (external : Option SymmetricKey) :
    (s.under bytes external).after calls = (s.after calls).under bytes external
      ∧ ((s.under bytes external).history calls).map Turn.result
          = (s.history calls).map Turn.result := by
  induction calls generalizing s with
  | nil => exact ⟨rfl, rfl⟩
  | cons call calls ih =>
    have first := neutral call List.mem_cons_self
    obtain ⟨answer, next⟩ := Call.turn_under plain first.commits bytes external
    have later : (s.after [call]).Plain := by
      refine plain_after plain fun c hc => ?_
      rw [List.mem_singleton.1 hc]
      exact first
    obtain ⟨ended, answers⟩ := ih later fun c hc => neutral c (List.mem_cons_of_mem _ hc)
    rw [after, after, history, history, List.map_cons, List.map_cons, next, answer]
    exact ⟨ended, congrArg _ answers⟩

theorem Session.Opened.under {bytes : Option Bytes} {external : Option SymmetricKey} (opened : s.Opened)
    (decoded : Setup.decodeExternal bytes = .ok external) : (s.under bytes external).Opened := by
  obtain ⟨a, a', valid⟩ := opened
  refine ⟨a, a', ?_⟩
  unfold Setup.validate at valid ⊢
  simp [Setup.gives_decodeMaster] at valid ⊢
  obtain ⟨named, master, -, same⟩ := valid
  exact ⟨named, master, decoded, same⟩

/-! ## The record decides -/

/-- **The external encryption key is respected** as the record says. As long as an activation lasts that
uses the key, nothing that reaches for keys ends well in a session without it, nor does it leave a
trace; and a session of the activation's own setup that takes over from such a session goes on as if
none of that had been called. Where an activation does without the key, sessions that differ only in
theirs have the same histories, and answer every next call alike. -/
theorem Session.external_key_respected :
    (∀ (home s : Session) (record : Record), home.stage = .activated record →
      record.usesExternal = true → home.Lasts s → s.external = none →
      ∀ op : Operation, op.reachesKeys = true → ∀ a, ∃ e a', op.run.result s a = ((.error e, s), a'))
    ∧ (∀ (home away back : Session) (record : Record), home.stage = .activated record →
      record.usesExternal = true → home.stored.Fits → home.Opened → back.Opened →
      back.setup = home.setup → away.external = none →
      ∀ calls : List Call, (∀ call ∈ calls, call.operation.discards = false) → ∀ a b,
        let out := away.after (⟨.deserialize home.serialize, a⟩ :: calls)
        let kept := home.after (calls.filter fun call => !call.operation.reachesKeys)
        out.serialize = kept.serialize ∧ back.after [⟨.deserialize out.serialize, b⟩] = kept)
    ∧ ∀ s : Session, s.Plain → ∀ calls : List Call, (∀ call ∈ calls, call.operation.Neutral) →
      ∀ bytes external,
        (s.under bytes external).after calls = (s.after calls).under bytes external
        ∧ ((s.under bytes external).history calls).map Turn.result
            = (s.history calls).map Turn.result
        ∧ ∀ op : Operation, op.Neutral → ∀ a, ∃ r s' a',
            op.run.result (s.after calls) a = ((r, s'), a')
            ∧ op.run.result ((s.under bytes external).after calls) a
              = ((r, s'.under bytes external), a') := by
  refine ⟨?_, ?_, ?_⟩
  · intro home s record stage uses lasts without op reaches a
    have sealed := lasts.sealed (sealed_of_stage stage uses)
    exact Operation.fails_of_refused (Operation.refused_of_sealed sealed without reaches) a
  · intro home away back record stage uses fits opened other setup without calls keep a b
    exact restored_after_away stage uses fits opened other setup without keep a b
  · intro s plain calls neutral bytes external
    obtain ⟨ended, answers⟩ := after_under plain neutral bytes external
    refine ⟨ended, answers, fun op next a => ?_⟩
    obtain ⟨r, stage, a', left, right⟩ :=
      op.agree_run next.commits (plain_after plain neutral) bytes external a
    rw [ended]
    exact ⟨r, _, a', left, right⟩

/-- An activation under a key that is restored without it, used in vain, and restored under the key
again; and one without a key, in a session that has one. -/
theorem Session.away_counting :
    ∃ record, (counting 5).stage = .activated record ∧
      let a : Ambient := ⟨⟨[], 7⟩, 0, []⟩
      let sign : Operation :=
        .sign ⟨"POST", "/payment", [], none⟩ ⟨some SymmetricKey.ones.bytes, none, none⟩ .possession
      let keyed := (counting 5).under (some SymmetricKey.ones.bytes) (some .ones)
      let home := keyed.at (.activated { record with usesExternal := true })
      let lost := (counting 5).at home.stage
      (∃ e a', sign.run.result lost a = ((.error e, lost), a'))
      ∧ (keyed.at .empty).after [⟨.deserialize
          ((counting 5).after [⟨.deserialize home.serialize, a⟩, ⟨sign, a⟩]).serialize, a⟩] = home
      ∧ keyed.after [⟨sign, a⟩]
          = ((counting 5).after [⟨sign, a⟩]).under (some SymmetricKey.ones.bytes) (some .ones) := by
  refine ⟨_, rfl, ?_⟩
  intro a sign keyed home lost
  obtain ⟨refused, restored, alike⟩ := external_key_respected
  have decoded : Setup.decodeExternal (some SymmetricKey.ones.bytes) = .ok (some .ones) := rfl
  have opened : keyed.Opened := (opened_counting 5 (counting 5).stage).under decoded
  have old := fits_counting 5
  have fits : home.stored.Fits :=
    ⟨old.activationId, old.serverKey, old.deviceKey, old.devicePrivate, old.keys, old.confirmedCodes⟩
  obtain ⟨_, restores⟩ := gives_deserialize (Stored.decode_encode fits) (counting 5) a
  have lasts : home.Lasts lost := .restored .start rfl fits restores
  refine ⟨?_, ?_, ?_⟩
  · exact refused home lost _ rfl rfl lasts rfl sign rfl a
  · have stay : ∀ call ∈ [(⟨sign, a⟩ : Call)], call.operation.discards = false := by
      simp [sign, Operation.discards]
    exact (restored home (counting 5) (keyed.at .empty) _ rfl rfl fits opened opened rfl rfl _ stay a
      a).2
  · have plain : (counting 5).Plain := by
      intro record stage
      obtain rfl := Stage.activated.inj stage
      rfl
    have neutral : ∀ call ∈ [(⟨sign, a⟩ : Call)], call.operation.Neutral := by
      simp [sign, Operation.Neutral]
    exact (alike _ plain _ neutral _ _).1

end DeviceAuth
