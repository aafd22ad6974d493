import DeviceAuth.Proofs.Session.Storage

/-!
# What an operation changes

An operation that leaves an activation in place writes into its record, and each into parts of its own:
a signature moves the counter, a new password brings a new knowledge key and a new salt, and so on.
`Operation.parts` is the list of them, and `Record.DiffersOnlyIn` says that all else in a record is as
it was. The equation behind it mentions the whole record, so a field that is not a part cannot change.

`Session.LeadsTo` is the table of stages: where an operation leads that neither resets nor restores.
`Session.Lasts` follows an activation through such operations and through storing and restoring. What
the key exchange fixed and no part covers stays, by one induction for all such facts:
`Session.Lasts.carries`.
-/

set_option autoImplicit false

namespace DeviceAuth

/-! ## Parts of a record -/

namespace Record

/-- A part of a record that some operation changes. -/
inductive Part where
  | counter
  | confirmedCodes
  | blocked
  | knowledge
  | salt
  | biometry
deriving DecidableEq, Repr

/-- A record with some of its parts taken from another one. -/
def patched (record : Record) (parts : List Part) (other : Record) : Record :=
  { record with
    keys := { record.keys with
      knowledge := if .knowledge ∈ parts then other.keys.knowledge else record.keys.knowledge
      biometry := if .biometry ∈ parts then other.keys.biometry else record.keys.biometry
      salt := if .salt ∈ parts then other.keys.salt else record.keys.salt }
    counter := if .counter ∈ parts then other.counter else record.counter
    blocked := if .blocked ∈ parts then other.blocked else record.blocked
    confirmedCodes :=
      if .confirmedCodes ∈ parts then other.confirmedCodes else record.confirmedCodes }

/-- Outside of some parts a record is as it was. -/
def DiffersOnlyIn (record next : Record) (parts : List Part) : Prop :=
  next = record.patched parts next

variable {record next : Record} {parts : List Part}

namespace DiffersOnlyIn

theorem refl (record : Record) (parts : List Part) : record.DiffersOnlyIn record parts := by
  unfold DiffersOnlyIn patched
  simp only [ite_self]

theorem unchanged {α : Type} (h : record.DiffersOnlyIn next parts) (field : Record → α)
    (outside : field (record.patched parts next) = field record) : field next = field record := by
  rw [DiffersOnlyIn] at h
  rw [h]
  exact outside

end DiffersOnlyIn

theorem rememberCode_differs (record : Record) (counter : Counter) (digest : Octets 32) :
    record.DiffersOnlyIn (({ record with counter } : Record).rememberCode digest)
      [.counter, .confirmedCodes] := by
  unfold rememberCode
  split
  · rfl
  · rfl

end Record

/-- The parts of a record that an operation may change. -/
def Operation.parts : Operation → List Record.Part
  | sign _ _ _ => [.counter]
  | requestVault _ _ _ => [.counter]
  | confirmRecovery _ _ _ => [.counter, .confirmedCodes]
  | changePassword _ _ => [.knowledge, .salt]
  | removeBiometry => [.biometry]
  | addBiometry _ _ => [.biometry]
  | applyStatus _ => [.blocked]
  | upgrade _ => [.counter]
  | _ => []

/-! ## Where a transition leads -/

/-- Where an operation can lead that neither resets nor restores: nowhere, or from each stage but the
last to the next one, and from an activation also to one that differs in the operation's parts. -/
def Session.LeadsTo (s : Session) (op : Operation) (s' : Session) : Prop :=
  s' = s ∨ match s.stage with
    | .empty => ∃ pair recovery, s'.stage = .begun pair recovery
    | .begun _ _ => ∃ h, s'.stage = .established h
    | .established h => ∃ stored devicePrivate,
        s'.stage = .activated (Session.newRecord h s.external.isSome stored devicePrivate)
    | .activated record =>
        s'.stage = .removed ∨ ∃ next, s'.stage = .activated next ∧ record.DiffersOnlyIn next op.parts
    | .removed => False

section

variable {s s' : Session} {op : Operation} {reply : Reply} {record : Record}

theorem Session.leadsTo_activated {next : Record} (activated : s.stage = .activated record)
    (differs : record.DiffersOnlyIn next op.parts) : s.LeadsTo op (s.at (.activated next)) := by
  refine Or.inr ?_
  rw [activated]
  exact Or.inr ⟨next, rfl, differs⟩

theorem Session.leadsTo_removed (activated : s.stage = .activated record) :
    s.LeadsTo op (s.at .removed) := by
  refine Or.inr ?_
  rw [activated]
  exact Or.inl rfl

theorem Transition.leads (moved : Transition s op reply s') (keeps : op.discards = false) :
    s.LeadsTo op s' := by
  have here {found : Record} (active : s.activeRecord = .ok found) : s.stage = .activated found :=
    (Session.activeRecord_eq_ok_iff.1 active).1
  cases moved with
  | begun stage | begunRecovery stage =>
    refine Or.inr ?_
    rw [stage]
    exact ⟨_, _, rfl⟩
  | established stage =>
    refine Or.inr ?_
    rw [stage]
    exact ⟨_, rfl⟩
  | committed stage =>
    refine Or.inr ?_
    rw [stage]
    exact ⟨_, _, rfl⟩
  | removed stage => exact Session.leadsTo_removed stage
  | removedOnServer stage => exact Session.leadsTo_removed stage
  | removedAgain stage => exact Or.inl rfl
  | reset => cases keeps
  | restored decoded => cases keeps
  | signed signs => exact Session.leadsTo_activated (here signs.active) rfl
  | vaultRequested factors signs => exact Session.leadsTo_activated (here signs.active) rfl
  | recoveryConfirmed factors isCode signs =>
    exact Session.leadsTo_activated (here signs.active) (Record.rememberCode_differs _ _ _)
  | applied blocked stage => exact Session.leadsTo_activated stage rfl
  | upgraded active => exact Session.leadsTo_activated (here active) rfl
  | passwordChanged active => exact Session.leadsTo_activated (here active) rfl
  | biometryRemoved active => exact Session.leadsTo_activated (here active) rfl
  | biometryAdded active => exact Session.leadsTo_activated (here active) rfl
  | observed observes => exact Or.inl rfl

namespace Session.LeadsTo

/-- **An operation on an activation** removes it, or changes nothing but its own parts. -/
theorem of_activated (led : s.LeadsTo op s') (activated : s.stage = .activated record) :
    s'.stage = .removed
      ∨ ∃ next, s'.stage = .activated next ∧ record.DiffersOnlyIn next op.parts := by
  rcases led with rfl | led
  · exact Or.inr ⟨record, activated, .refl record _⟩
  · rw [activated] at led
    exact led

theorem of_established {h : Handshake} (led : s.LeadsTo op s') (established : s.stage = .established h) :
    s' = s ∨ ∃ stored devicePrivate,
      s'.stage = .activated (Session.newRecord h s.external.isSome stored devicePrivate) := by
  rcases led with rfl | led
  · exact Or.inl rfl
  · rw [established] at led
    exact Or.inr led

theorem of_removed (led : s.LeadsTo op s') (gone : s.stage = .removed) : s' = s := by
  rcases led with rfl | led
  · rfl
  · rw [gone] at led
    exact led.elim

end Session.LeadsTo

end

/-! ## As long as an activation lasts -/

/-- A session is a later moment of the activation another one holds. In between, anything may have
been called that does not discard the activation, and its state may have been stored and restored,
perhaps in another session, once there was one to store. -/
inductive Session.Lasts (first : Session) : Session → Prop
  | start : Lasts first first
  | called {s : Session} (lasts : Lasts first s) (call : Call)
      (keeps : call.operation.discards = false) : Lasts first (call.turn s).after
  | restored {s t t' : Session} {a a' : Ambient} (lasts : Lasts first s)
      (settled : s.stage.settled = true) (fits : s.stored.Fits)
      (ran : (Session.deserialize s.serialize).Gives t a () t' a') : Lasts first t'

/-- A call leaves the activation of a session in place: it does not reset the session, and octets that
it restores are what the session itself would be stored as. -/
def Call.LeavesInPlace (call : Call) (s : Session) : Prop :=
  match call.operation with
  | .reset => False
  | .deserialize bytes => (call.turn s).result.isOk = true →
      s.stage.settled = true ∧ s.stored.Fits ∧ ∃ tail, bytes = s.serialize ++ tail
  | _ => True

/-- Something holds of the key exchange a session holds, or of its record. A removed activation has
neither, and other sessions do not qualify. -/
def Session.Carries (s : Session) (exchange : Handshake → Prop) (activation : Record → Prop) : Prop :=
  match s.stage with
  | .established h => exchange h
  | .activated record => activation record
  | .removed => True
  | _ => False

section

variable {first s s' : Session} {op : Operation} {reply : Reply} {a a' : Ambient}

namespace Session.Lasts

theorem of_gives (lasts : first.Lasts s) (keeps : op.discards = false)
    (ran : op.run.Gives s a reply s' a') : first.Lasts s' := by
  rw [← Call.after_of_gives ran]
  exact lasts.called ⟨op, a⟩ keeps

theorem commit {keys : UnlockKeys} (lasts : first.Lasts s)
    (committed : (Session.commit keys).Gives s a () s' a') : first.Lasts s' := by
  have ran : (Operation.commit keys).run.Gives s a .done s' a' :=
    Change.gives_map.2 ⟨(), committed, rfl⟩
  exact lasts.of_gives rfl ran

end Session.Lasts

/-- A call that leaves an activation in place does not discard it, or discards it for itself. -/
theorem Call.keeps_or_same {call : Call} (inPlace : call.LeavesInPlace s) :
    call.operation.discards = false ∨ (call.turn s).after = s := by
  obtain ⟨op, a⟩ := call
  cases op with
  | reset => exact inPlace.elim
  | deserialize bytes =>
    -- What is accepted are octets of the session itself, and what is refused changes nothing.
    refine Or.inr ?_
    cases result : (Call.turn ⟨.deserialize bytes, a⟩ s).result with
    | ok reply =>
      have ended : (Call.turn ⟨.deserialize bytes, a⟩ s).result.isOk = true := by
        rw [result]
        rfl
      obtain ⟨settled, fits, tail, rfl⟩ := inPlace ended
      obtain ⟨_, gives⟩ := Call.gives_of_result result
      obtain ⟨_, ran, -⟩ := Change.gives_map.1 gives
      exact Session.eq_of_gives_deserialize_append settled fits ran
    | error e =>
      obtain ⟨_, failed⟩ := Call.failed_of_result result
      exact (Operation.deserialize bytes).atomic_run s a e _ _ failed
  | _ => exact Or.inl rfl

theorem Session.Lasts.inPlace {call : Call} (lasts : first.Lasts s)
    (inPlace : call.LeavesInPlace s) : first.Lasts (call.turn s).after := by
  rcases call.keeps_or_same inPlace with keeps | same
  · exact lasts.called call keeps
  · rw [same]
    exact lasts

variable {exchange : Handshake → Prop} {activation : Record → Prop}

theorem Session.LeadsTo.carries (led : s.LeadsTo op s')
    (committed : ∀ h external keys devicePrivate, exchange h →
      activation (Session.newRecord h external keys devicePrivate))
    (changed : ∀ record next (op : Operation), record.DiffersOnlyIn next op.parts →
      activation record → activation next)
    (c : s.Carries exchange activation) : s'.Carries exchange activation := by
  unfold Session.Carries at c ⊢
  cases stage : s.stage with
  | empty | begun =>
    rw [stage] at c
    exact c.elim
  | established h =>
    rcases led.of_established stage with rfl | ⟨keys, devicePrivate, reached⟩
    · exact c
    · rw [stage] at c
      rw [reached]
      exact committed h _ _ _ c
  | activated record =>
    rw [stage] at c
    rcases led.of_activated stage with reached | ⟨next, reached, differs⟩
    · rw [reached]
      exact True.intro
    · rw [reached]
      exact changed record next op differs c
  | removed =>
    rw [led.of_removed stage]
    exact c

/-- **What an activation carries, it carries for as long as it lasts**, if a commitment takes it over
and no part that an operation changes bears on it. -/
theorem Session.Lasts.carries (lasts : first.Lasts s)
    (committed : ∀ h external keys devicePrivate, exchange h →
      activation (newRecord h external keys devicePrivate))
    (changed : ∀ record next (op : Operation), record.DiffersOnlyIn next op.parts →
      activation record → activation next)
    (start : first.Carries exchange activation) : s.Carries exchange activation := by
  induction lasts with
  | start => exact start
  | @called s _ call keeps ih =>
    rcases call.transition_or_unchanged s with ⟨reply, moved⟩ | same
    · exact (moved.leads keeps).carries committed changed ih
    · rw [same]
      exact ih
  | @restored s t t' a a' _ settled fits ran ih =>
    -- Only the stage is looked at, and the octets bring exactly that.
    rw [eq_of_gives_deserialize settled fits ran]
    exact ih

end

end DeviceAuth
