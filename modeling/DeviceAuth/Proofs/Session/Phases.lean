import DeviceAuth.Proofs.Session.Frame
import DeviceAuth.Proofs.Session.Handshake

/-!
# An activation goes through its phases in order

The phases of an activation are rungs of a ladder: empty, begun, established, committed, removed. A
blocked activation is on the rung of an active one. Leaving aside a reset and a restored state, nothing
an application calls leads down the ladder, and no call leads up by more than one rung. The first three
rungs are reached by the steps of the activation alone, one step for each rung, so the rung a session
is on tells which steps have been taken: `Session.Climbs` is what one call preserves, and
`Session.taken_after` what a whole history does. The top rung is never left again.
-/

set_option autoImplicit false

namespace DeviceAuth

/-! ## Rungs and steps -/

/-- How far an activation has come. -/
def Phase.rung : Phase → Nat
  | empty => 0
  | pendingStep1 => 1
  | pendingStep2 => 2
  | active => 3
  | blocked => 3
  | removed => 4

/-- A step that an activation takes on its way to being committed. -/
inductive ActivationStep where
  | begin
  | establish
  | commit
deriving DecidableEq, Repr

/-- The steps in their order. -/
def ActivationStep.all : List ActivationStep := [begin, establish, commit]

/-- The step an operation takes if it ends well. There are two ways to begin. -/
def Operation.step? : Operation → Option ActivationStep
  | begin _ => some .begin
  | beginRecovery _ _ => some .begin
  | establish _ => some .establish
  | commit _ => some .commit
  | _ => none

/-- The step a turn has taken. -/
def Turn.taken? (turn : Turn) : Option ActivationStep :=
  if turn.result.isOk then turn.operation.step? else none

/-- The steps taken in some turns, earliest first. -/
def stepsTaken (turns : List Turn) : List ActivationStep := turns.filterMap Turn.taken?

theorem stepsTaken_cons (turn : Turn) (turns : List Turn) :
    stepsTaken (turn :: turns) = turn.taken?.toList ++ stepsTaken turns := by
  unfold stepsTaken
  rw [List.filterMap_cons]
  cases turn.taken? with
  | none => rfl
  | some step => rfl

theorem Operation.step?_of_observes {op : Operation} (h : op.observes = true) : op.step? = none := by
  cases op with
  | begin => cases h
  | beginRecovery => cases h
  | establish => cases h
  | commit => cases h
  | _ => rfl

/-! ## One call -/

/-- From `s` to `s'` an activation has come no way back, at most one rung further, and exactly as far
as its steps go. -/
structure Session.Climbs (s s' : Session) (step : Option ActivationStep) : Prop where
  rises : s.phase.rung ≤ s'.phase.rung
  byOne : s'.phase.rung ≤ s.phase.rung + 1
  taken : ActivationStep.all.take s'.phase.rung
    = ActivationStep.all.take s.phase.rung ++ step.toList

variable {s s' : Session} {op : Operation} {reply : Reply}

namespace Session

theorem Climbs.refl (s : Session) : s.Climbs s none :=
  ⟨Nat.le_refl _, Nat.le_succ _, (List.append_nil _).symm⟩

theorem rung_of_stage {stage : Stage} (h : s.stage = stage) : s.phase.rung = stage.phase.rung :=
  congrArg (fun stage => stage.phase.rung) h

theorem rung_activated (record : Record) : (Stage.activated record).phase.rung = 3 := by
  show (if record.blocked then Phase.blocked else Phase.active).rung = 3
  split
  · rfl
  · rfl

theorem rung_of_activated {record : Record} (activated : s.stage = .activated record) :
    s.phase.rung = 3 :=
  (rung_of_stage activated).trans (rung_activated record)

theorem climbs_of_rungs (m n : Nat) {step : Option ActivationStep} (before : s.phase.rung = m)
    (after : s'.phase.rung = n) (rises : m ≤ n) (byOne : n ≤ m + 1)
    (taken : ActivationStep.all.take n = ActivationStep.all.take m ++ step.toList) :
    s.Climbs s' step := by
  subst before after
  exact ⟨rises, byOne, taken⟩

/-- Whatever becomes of its record, a committed activation stays on its rung. -/
theorem climbs_activated {record next : Record} (activated : s.stage = .activated record) :
    s.Climbs (s.at (.activated next)) none :=
  climbs_of_rungs 3 3 (rung_of_activated activated) (rung_activated next) (by decide) (by decide) rfl

theorem climbs_active {record next : Record} (active : s.activeRecord = .ok record) :
    s.Climbs (s.at (.activated next)) none :=
  climbs_activated (activeRecord_eq_ok_iff.1 active).1

theorem climbs_removed {record : Record} (activated : s.stage = .activated record) :
    s.Climbs (s.at .removed) none :=
  climbs_of_rungs 3 4 (rung_of_activated activated) rfl (by decide) (by decide) rfl

end Session

/-- **An operation that ended well** leads at most one rung up, and below the top rung by a step. -/
theorem Transition.climbs (moved : Transition s op reply s') (keeps : op.discards = false) :
    s.Climbs s' op.step? := by
  cases moved with
  | begun empty =>
    exact Session.climbs_of_rungs 0 1 (Session.rung_of_stage empty) rfl (by decide) (by decide) rfl
  | begunRecovery empty =>
    exact Session.climbs_of_rungs 0 1 (Session.rung_of_stage empty) rfl (by decide) (by decide) rfl
  | established begun =>
    exact Session.climbs_of_rungs 1 2 (Session.rung_of_stage begun) rfl (by decide) (by decide) rfl
  | committed established =>
    exact Session.climbs_of_rungs 2 3 (Session.rung_of_stage established) (Session.rung_activated _)
      (by decide) (by decide) rfl
  | removed activated => exact Session.climbs_removed activated
  | removedAgain removed => exact .refl s
  | reset => cases keeps
  | signed signs => exact Session.climbs_active signs.active
  | vaultRequested factors signs => exact Session.climbs_active signs.active
  | recoveryConfirmed factors isCode signs => exact Session.climbs_active signs.active
  | applied blocked activated => exact Session.climbs_activated activated
  | removedOnServer activated => exact Session.climbs_removed activated
  | upgraded active => exact Session.climbs_active active
  | restored decoded => cases keeps
  | passwordChanged active => exact Session.climbs_active active
  | biometryRemoved active => exact Session.climbs_active active
  | biometryAdded active => exact Session.climbs_active active
  | observed observes =>
    rw [Operation.step?_of_observes observes]
    exact .refl s

/-- A call, however it ended, leads at most one rung up, and by a step that ended well. -/
theorem Call.climbs {call : Call} (keeps : call.operation.discards = false) :
    s.Climbs (call.turn s).after (call.turn s).taken? := by
  unfold Turn.taken?
  cases result : (call.turn s).result with
  | ok reply =>
    obtain ⟨_, gives⟩ := Call.gives_of_result result
    exact (Transition.of_gives gives).climbs keeps
  | error e =>
    obtain ⟨_, failed⟩ := Call.failed_of_result result
    have same := call.operation.atomic_run s call.ambient e _ _ failed
    rw [same]
    exact .refl s

/-! ## A whole history -/

namespace Session

theorem rung_le_after {calls : List Call} (keeps : ∀ call ∈ calls, call.operation.discards = false) :
    s.phase.rung ≤ (s.after calls).phase.rung := by
  have step : ∀ (t : Session) op reply t', op.discards = false → s.phase.rung ≤ t.phase.rung →
      Transition t op reply t' → s.phase.rung ≤ t'.phase.rung :=
    fun _ _ _ _ keeps below moved => below.trans (moved.climbs keeps).rises
  exact preserved step (Nat.le_refl _) keeps

/-- **The rung tells the steps.** Along a history the steps that bring a session from its rung to a
later one are taken, each once and in their order. -/
theorem taken_after {calls : List Call} (keeps : ∀ call ∈ calls, call.operation.discards = false) :
    ActivationStep.all.take (s.after calls).phase.rung
      = ActivationStep.all.take s.phase.rung ++ stepsTaken (s.history calls) := by
  -- The first call takes the steps from the rung before it to the rung after it, and the rest goes on
  -- from there, so the two lists of steps meet.
  induction calls generalizing s with
  | nil => exact (List.append_nil _).symm
  | cons call calls ih =>
    have first := (Call.climbs (s := s) (keeps call List.mem_cons_self)).taken
    have rest := ih (s := (call.turn s).after) fun c hc => keeps c (List.mem_cons_of_mem _ hc)
    rw [after, history, stepsTaken_cons, rest, first, List.append_assoc]

theorem after_of_removed {calls : List Call}
    (keeps : ∀ call ∈ calls, call.operation.discards = false) (gone : s.stage = .removed) :
    s.after calls = s := by
  have step : ∀ (t : Session) op reply t', op.discards = false → t = s → Transition t op reply t' →
      t' = s := by
    intro t op reply t' keeps same moved
    subst same
    exact (moved.leads keeps).of_removed gone
  exact preserved step rfl keeps

theorem stage_of_phase_removed (h : s.phase = .removed) : s.stage = .removed := by
  unfold phase at h
  cases stage : s.stage with
  | removed => rfl
  | activated record =>
    have rung := rung_activated record
    rw [← stage, h] at rung
    cases rung
  | _ =>
    rw [stage] at h
    cases h

theorem exists_gives_remove {record : Record} (activated : s.stage = .activated record) (a : Ambient) :
    ∃ a', remove.Gives s a () (s.at .removed) a' := by
  unfold remove
  simp [activated]

theorem empty_of_create {setup : Setup} {a a' : Ambient} (created : (create setup).Gives a s a') :
    s.stage = .empty := by
  unfold create at created
  simp at created
  obtain ⟨keys, _, -, -, rfl⟩ := created
  rfl

/-- **An activation goes through its phases in order.** From its creation on, whatever is called but a
reset or a restored state, each call leaves a session on its rung or leads one rung up, and a call that
fails changes nothing. The steps that were taken, each once and in their order, are those the rung
tells; so an activation is active or blocked after it was begun, established and committed. What was
reached is never lost, and a removed activation stays removed, without a record, an identifier, a
fingerprint or a version. -/
theorem phases_in_order {setup : Setup} {a a' : Ambient} {calls : List Call}
    (created : (create setup).Gives a s a')
    (keeps : ∀ call ∈ calls, call.operation.discards = false) :
    (∀ earlier turn later, s.history calls = earlier ++ turn :: later →
      turn.before.phase.rung ≤ turn.after.phase.rung
      ∧ turn.after.phase.rung ≤ turn.before.phase.rung + 1
      ∧ (turn.result.isOk = false → turn.after = turn.before))
    ∧ stepsTaken (s.history calls) = ActivationStep.all.take (s.after calls).phase.rung
    ∧ ((s.after calls).phase = .active ∨ (s.after calls).phase = .blocked →
      stepsTaken (s.history calls) = [.begin, .establish, .commit])
    ∧ ∀ before rest, calls = before ++ rest →
      (s.after before).phase.rung ≤ (s.after calls).phase.rung
      ∧ ((s.after before).phase = .removed →
        s.after calls = s.after before ∧ (s.after calls).phase = .removed
        ∧ (s.after calls).record? = none ∧ (s.after calls).activationId? = none
        ∧ (s.after calls).fingerprint? = none ∧ (s.after calls).version? = none) := by
  -- A new session stands on the lowest rung, with no step behind it.
  have taken : stepsTaken (s.history calls)
      = ActivationStep.all.take (s.after calls).phase.rung := by
    have start : s.phase.rung = 0 := congrArg (fun t => t.phase.rung) (empty_of_create created)
    rw [taken_after keeps, start]
    rfl
  refine ⟨?_, taken, ?_, ?_⟩
  · intro earlier turn later place
    obtain ⟨before, call, rest, rfl, -, rfl⟩ := exists_of_history_eq place
    have climbs := Call.climbs (s := s.after before)
      (keeps call (List.mem_append_right _ List.mem_cons_self))
    refine ⟨climbs.rises, climbs.byOne, fun failed => ?_⟩
    cases result : (call.turn (s.after before)).result with
    | ok reply =>
      rw [result] at failed
      cases failed
    | error e =>
      obtain ⟨_, ended⟩ := Call.failed_of_result result
      exact call.operation.atomic_run _ call.ambient e _ _ ended
  · rintro (active | blocked)
    · rw [taken, active]
      rfl
    · rw [taken, blocked]
      rfl
  · rintro before rest rfl
    have later : ∀ call ∈ rest, call.operation.discards = false :=
      fun call member => keeps call (List.mem_append_right _ member)
    rw [after_append]
    refine ⟨rung_le_after later, fun removed => ?_⟩
    have gone := stage_of_phase_removed removed
    rw [after_of_removed later gone]
    refine ⟨rfl, removed, ?_, ?_, ?_, ?_⟩
    · unfold record?
      rw [gone]
    · unfold activationId?
      rw [gone]
    · unfold fingerprint?
      rw [gone]
    · unfold version? record?
      rw [gone]
      rfl

/-- An activation that was removed after it was committed: its three steps were taken, and another one
cannot be begun in its place. -/
theorem phases_of_removed :
    let a : Ambient := ⟨⟨[], 7⟩, 0, []⟩
    let s := (counting 0).at .empty
    let keys : UnlockKeys := ⟨some SymmetricKey.ones.bytes, none, some ⟨[1, 2, 3, 4]⟩⟩
    let answer := ActivationAnswer.ofServer .unit "activation" .zero none
    let life : List Call := [⟨.begin none, a⟩, ⟨.establish answer, a⟩, ⟨.commit keys, a⟩, ⟨.remove, a⟩]
    let calls := life ++ [⟨.begin none, a⟩]
    ∃ a', (create s.setup).Gives a s a' ∧ (∀ call ∈ calls, call.operation.discards = false)
      ∧ (s.after life).phase = .removed ∧ (s.after calls).phase = .removed
      ∧ stepsTaken (s.history calls) = [.begin, .establish, .commit] := by
  intro a s keys answer life calls
  have created : (create s.setup).Gives a s _ :=
    Core.gives_bind.2 ⟨_, a, validates_counting 0 a, by simp; exact ⟨rfl, rfl⟩⟩
  have keeps : ∀ call ∈ calls, call.operation.discards = false := by
    simp [calls, life, Operation.discards]
  have named : "activation" ≠ "" := by decide
  have valid : ∀ data, (none : Option RecoveryData) = some data → data.IsValid :=
    fun _ given => by cases given
  obtain ⟨pair, exchanged⟩ := exists_after_exchange .unit .zero (s.at_stage .empty) named valid a a
  have accepted : locks keys = .ok ⟨.ones, ⟨[1, 2, 3, 4]⟩, none⟩ := rfl
  have established : (s.after [⟨.begin none, a⟩, ⟨.establish answer, a⟩]).stage = .established _ :=
    congrArg Session.stage exchanged
  obtain ⟨current, _, committed⟩ := exists_gives_commit established accepted a
  obtain ⟨record, -, active, -⟩ := exists_activeRecord_of_commit committed
  have activated := (activeRecord_eq_ok_iff.1 active).1
  have third : (Operation.commit keys).run.Gives _ a .done current _ :=
    Change.gives_map.2 ⟨(), committed, rfl⟩
  obtain ⟨_, dropped⟩ := exists_gives_remove activated a
  have fourth : Operation.remove.run.Gives current a .done (current.at .removed) _ :=
    Change.gives_map.2 ⟨(), dropped, rfl⟩
  have gone : s.after life = current.at .removed := by
    have parts : life = [⟨.begin none, a⟩, ⟨.establish answer, a⟩] ++ [⟨.commit keys, a⟩, ⟨.remove, a⟩] :=
      rfl
    rw [parts, after_append, after_cons_of_gives third, after_cons_of_gives fourth, after]
  have removed : (s.after life).phase = .removed := by
    rw [gone]
    rfl
  obtain ⟨-, taken, -, later⟩ := phases_in_order created keeps
  obtain ⟨-, final⟩ := later life _ rfl
  obtain ⟨-, still, -⟩ := final removed
  rw [still] at taken
  exact ⟨_, created, keeps, removed, still, taken⟩

end Session

end DeviceAuth
