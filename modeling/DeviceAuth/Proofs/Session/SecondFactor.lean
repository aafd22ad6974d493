import DeviceAuth.Proofs.Session.Storage
import DeviceAuth.Proofs.Vault

/-!
# Nothing of the vault without a second factor

A vault is unlocked with an authorization, and an authorization is made by asking for one: an application
cannot put it together itself. So what a vault needs can be followed back to a call with two factors,
however many sessions there are, however long ago the call was, and whatever has become of the activation
since. `Application` keeps the calls of all sessions in their order, and `Application.Reached` lets an
operation have an authorization or a vault only if some call before it has answered with it
(`Application.Reached.given`).

`Session.Proves` says what unlock keys show for a combination of factors. It is shown where an
authorization is made (`Operation.proves_of_authorization`), where a recovery code is confirmed
(`Operation.proves_of_confirmation`), and once more where the vault is unlocked, for the factors of the
authorization (`Vault.proves_of_unlock`).
-/

set_option autoImplicit false

namespace DeviceAuth

/-! ## What unlock keys show -/

/-- Unlock keys show a second factor to the active record of a session, and with it the device's own:
the lock of every factor of the combination opens the key that is stored for it. -/
structure Session.Proves (s : Session) (record : Record) (keys : UnlockKeys) (factor : SignatureFactor) :
    Prop where
  active : s.activeRecord = .ok record
  second : factor.usesKnowledge = true ∨ factor.usesBiometry = true
  opens : ∃ external, s.externalFor record = .ok external
    ∧ (∃ lock key, keys.possession = some lock.bytes ∧ record.keys.possession.Opens lock external key)
    ∧ (factor.usesKnowledge = true → ∃ password lock key, keys.password = some password
      ∧ Kdf.passwordLock password.bytes record.keys.salt = .ok lock
      ∧ record.keys.knowledge.Opens lock external key)
    ∧ (factor.usesBiometry = true → ∃ lock stored key, keys.biometry = some lock.bytes
      ∧ record.keys.biometry = some stored ∧ stored.Opens lock external key)

theorem SignatureFactor.uses_of_two_le_count {factor : SignatureFactor} (h : 2 ≤ factor.count) :
    factor.usesKnowledge = true ∨ factor.usesBiometry = true := by
  cases factor with
  | possession => exact absurd h (by decide)
  | possessionKnowledge => exact .inl rfl
  | possessionBiometry => exact .inr rfl
  | possessionKnowledgeBiometry => exact .inl rfl

variable {s : Session} {record : Record} {keys : UnlockKeys} {factor : SignatureFactor}

/-- Who unlocks the signature keys of two factors has shown both. -/
theorem Session.Unlocks.proves {found : List SymmetricKey} (h : s.Unlocks record keys factor found)
    (active : s.activeRecord = .ok record) (factors : 2 ≤ factor.count) :
    s.Proves record keys factor := by
  refine ⟨active, SignatureFactor.uses_of_two_le_count factors, ?_⟩
  obtain ⟨lock, external, possession, _, _, given, outside, opens, knows, has, -⟩ := h.reached
  refine ⟨external, outside, ⟨lock, possession, (UnlockKeys.require_eq_ok_iff.1 given).1, opens⟩,
    fun used => ?_, fun used => ?_⟩
  · rw [Record.FindsKnowledge, if_pos used] at knows
    obtain ⟨password, lock, key, required, locked, opens, -⟩ := knows
    unfold UnlockKeys.requirePassword at required
    cases given : keys.password with
    | none =>
      rw [given] at required
      cases required
    | some other =>
      rw [given] at required
      obtain rfl := Except.ok.inj required
      exact ⟨other, lock, key, rfl, locked, opens⟩
  · rw [Record.FindsBiometry, if_pos used] at has
    obtain ⟨lock, stored, key, required, held, opens, -⟩ := has
    exact ⟨lock, stored, key, (UnlockKeys.require_eq_ok_iff.1 required).1, held, opens⟩

/-! ## The three kinds of calls -/

namespace Operation

variable {op : Operation} {s' : Session} {a a' : Ambient}

/-- Only asking for the vault makes an authorization, and it takes a second factor. -/
theorem proves_of_authorization {authorization : VaultAuthorization}
    (ran : op.run.Gives s a (.authorization authorization) s' a') :
    ∃ request keys record, op = .requestVault request keys authorization.factor
      ∧ s.Proves record keys authorization.factor
      ∧ authorization.signature.activationId = record.activationId := by
  cases op with
  | requestVault request keys factor =>
    obtain ⟨_, asked, same⟩ := Change.gives_map.1 ran
    cases same
    cases Transition.of_requestVault asked with
    | vaultRequested factors signs =>
      obtain ⟨found, unlocks, -⟩ := signs.value
      obtain ⟨-, named, -, rfl⟩ := signs.header
      exact ⟨request, keys, _, rfl, unlocks.proves signs.active factors, named⟩
    | observed observes => cases observes
  | _ =>
    obtain ⟨_, -, same⟩ := Change.gives_map.1 ran
    cases same

/-- Only confirming a recovery code makes a confirmation, and it takes a second factor. -/
theorem proves_of_confirmation {confirmation : RecoveryConfirmation}
    (ran : op.run.Gives s a (.confirmation confirmation) s' a') :
    ∃ code keys record, op = .confirmRecovery code keys confirmation.signature.factor
      ∧ s.Proves record keys confirmation.signature.factor
      ∧ confirmation.signature.activationId = record.activationId := by
  cases op with
  | confirmRecovery code keys factor =>
    obtain ⟨_, asked, same⟩ := Change.gives_map.1 ran
    cases same
    cases Transition.of_confirmRecovery asked with
    | recoveryConfirmed factors isCode signs =>
      obtain ⟨found, unlocks, -⟩ := signs.value
      obtain ⟨-, named, -, rfl⟩ := signs.header
      exact ⟨code, keys, _, rfl, unlocks.proves signs.active factors, named⟩
    | observed observes => cases observes
  | _ =>
    obtain ⟨_, -, same⟩ := Change.gives_map.1 ran
    cases same

end Operation

/-- What unlocks a vault shows the factors of the authorization, of the same activation. -/
theorem Vault.proves_of_unlock {authorization : VaultAuthorization} {encryptedKey : String}
    {vault : Vault} {a a' : Ambient}
    (ran : (unlock s authorization keys encryptedKey).Gives a vault a') :
    ∃ record, s.Proves record keys authorization.factor
      ∧ record.activationId = authorization.signature.activationId
      ∧ vault.activationId = authorization.signature.activationId := by
  unfold unlock at ran
  simp [and_assoc] at ran
  obtain ⟨record, active, named, factors, ⟨found, unlocks⟩, -, -, -, -, -, -, -, -, -, -, rfl⟩ := ran
  exact ⟨record, unlocks.proves active factors, named.symm, named.symm⟩

namespace Operation

variable {op : Operation} {s' : Session} {a a' : Ambient}

/-- Only unlocking a vault gives one. -/
theorem proves_of_vault {vault : Vault} (ran : op.run.Gives s a (.vault vault) s' a') :
    ∃ authorization keys encryptedKey record, op = .unlockVault authorization keys encryptedKey
      ∧ s.Proves record keys authorization.factor
      ∧ record.activationId = authorization.signature.activationId
      ∧ vault.activationId = authorization.signature.activationId := by
  cases op with
  | unlockVault authorization keys encryptedKey =>
    obtain ⟨_, asked, same⟩ := Change.gives_map.1 ran
    cases same
    obtain ⟨record, shown⟩ := Vault.proves_of_unlock (Transition.of_ask asked).1
    exact ⟨authorization, keys, encryptedKey, record, rfl, shown⟩
  | _ =>
    obtain ⟨_, -, same⟩ := Change.gives_map.1 ran
    cases same

/-- A key of the vault comes from a vault that was unlocked for it. -/
theorem proves_of_key {key : SymmetricKey} (ran : op.run.Gives s a (.key key) s' a') :
    ∃ authorization keys encryptedKey index record,
      op = .deriveOnce authorization keys encryptedKey index
      ∧ s.Proves record keys authorization.factor
      ∧ record.activationId = authorization.signature.activationId := by
  cases op with
  | deriveOnce authorization keys encryptedKey index =>
    obtain ⟨_, asked, same⟩ := Change.gives_map.1 ran
    cases same
    have derived := (Transition.of_ask asked).1
    unfold Vault.deriveOnce at derived
    obtain ⟨vault, _, unlocked, -⟩ := Core.gives_bind.1 derived
    obtain ⟨record, shown, named, -⟩ := Vault.proves_of_unlock unlocked
    exact ⟨authorization, keys, encryptedKey, index, record, rfl, shown, named⟩
  | _ =>
    obtain ⟨_, -, same⟩ := Change.gives_map.1 ran
    cases same

end Operation

/-! ## A vault that can be had -/

namespace Session

variable {locks : Locks}

/-- An activation that is asked for, answered and committed can be used, and keeps in step with the locks
of the commitment. -/
theorem exists_after_commit {recovery : Option RecoveryData} {id : String} (server : KeyPair)
    (counterData : Octets 16) (empty : s.stage = .empty) (named : id ≠ "")
    (valid : ∀ data, recovery = some data → data.IsValid) (accepted : Session.locks keys = .ok locks)
    (a : Ambient) :
    let current := s.after [⟨.begin none, a⟩, ⟨.establish (.ofServer server id counterData recovery), a⟩,
      ⟨.commit keys, a⟩]
    ∃ record data h iv, current.activeRecord = .ok record ∧ record.counter = .hashed data
      ∧ current.Keeps h iv locks [] := by
  obtain ⟨pair, exchanged⟩ := exists_after_exchange server counterData empty named valid a a
  have established := congrArg Session.stage exchanged
  obtain ⟨first, _, committed⟩ := exists_gives_commit established accepted a
  obtain ⟨record, data, active, counter⟩ := exists_activeRecord_of_commit committed
  obtain ⟨h, iv, _, keeps⟩ := keeps_of_commit accepted committed
  have last : (Operation.commit keys).run.Gives _ a .done first _ :=
    Change.gives_map.2 ⟨(), committed, rfl⟩
  have arrived := after_append s [⟨.begin none, a⟩,
    ⟨.establish (.ofServer server id counterData recovery), a⟩] [⟨.commit keys, a⟩]
  rw [after_cons_of_gives last, after] at arrived
  exact ⟨record, data, h, iv, arrived ▸ ⟨active, counter, keeps⟩⟩

/-- Whoever holds the locks of an activation can ask for the vault and unlock it, with the key that the
server sends. -/
theorem Keeps.exists_gives_vault {h : Handshake} {iv : Octets 16} {vaults : List Vault} {next : Counter}
    {request : Request} (k : s.Keeps h iv locks vaults) (active : s.activeRecord = .ok record)
    (counter : record.counter.next = .ok next) (valid : request.validate = .ok ())
    (online : request.isOffline = false) (factors : 2 ≤ factor.count) (serve : keys.Serve locks factor)
    (stored : factor.usesBiometry = true → record.hasBiometry = true) (a : Ambient) :
    ∃ authorization asked encryptedKey vault b c,
      (Operation.requestVault request keys factor).run.Gives s a (.authorization authorization) asked b
      ∧ (Operation.unlockVault authorization keys encryptedKey).run.Gives asked a (.vault vault) asked c
      ∧ authorization.factor = factor := by
  obtain ⟨found, unlocks⟩ := (k.of_active active).exists_unlocks k.usable serve stored
  obtain ⟨authorization, b, authorized⟩ :=
    exists_gives_requestVault active counter valid online factors unlocks a
  obtain ⟨named, rfl, -⟩ := k.authorization_of_requestVault authorized
  have asking : (Operation.requestVault request keys authorization.factor).run.Gives s a _ _ b :=
    Change.gives_map.2 ⟨authorization, authorized, rfl⟩
  have kept := (Transition.of_gives asking).keeps_step rfl k
  have still : (s.at (.activated { record with counter := next })).activeRecord = .ok _ :=
    activeRecord_eq_ok_iff.2 ⟨rfl, (activeRecord_eq_ok_iff.1 active).2⟩
  obtain ⟨c, unlocked⟩ := kept.exists_gives_unlock still named factors serve stored a
  exact ⟨authorization, _, _, _, b, c, asking, Change.gives_map.2 ⟨_, gives_ask unlocked, rfl⟩, rfl⟩

end Session

/-! ## Applications -/

/-- The object of an earlier call that an operation is given. Applications do not make these objects
themselves. -/
def Operation.given? : Operation → Option Reply
  | addBiometry vault _ => some (.vault vault)
  | unlockVault authorization _ _ => some (.authorization authorization)
  | deriveOnce authorization _ _ _ => some (.authorization authorization)
  | _ => none

/-- An application: its sessions as they stand, and the calls on any of them in the order in which they
ended. -/
structure Application where
  sessions : List Session
  turns : List Turn

namespace Application

/-- Some call has answered with this. -/
def Has (app : Application) (reply : Reply) : Prop := ∃ turn ∈ app.turns, turn.result = .ok reply

/-- What an application can have come to: it creates sessions with any setups and makes any calls on
them, with objects of earlier calls where an operation takes such. -/
inductive Reached : Application → Prop
  | start : Reached ⟨[], []⟩
  | created {app : Application} {setup : Setup} {s : Session} {a a' : Ambient} (before : Reached app)
      (ran : (Session.create setup).Gives a s a') : Reached ⟨app.sessions ++ [s], app.turns⟩
  | called {app : Application} {i : Nat} {s : Session} {call : Call} (before : Reached app)
      (found : app.sessions[i]? = some s)
      (given : ∀ reply, call.operation.given? = some reply → app.Has reply) :
    Reached ⟨app.sessions.set i (call.turn s).after, app.turns ++ [call.turn s]⟩

variable {app : Application} {earlier later : List Turn} {turn : Turn}

/-- **What a call was given, a call before it has answered.** -/
theorem Reached.given (reached : app.Reached) (place : app.turns = earlier ++ turn :: later) :
    ∃ (call : Call) (s : Session), turn = call.turn s ∧ ∀ reply, call.operation.given? = some reply →
      ∃ asked ∈ earlier, asked.result = .ok reply := by
  induction reached generalizing later with
  | start => exact absurd place (by simp)
  | created _ _ ih => exact ih place
  | @called app i s call before found given ih =>
    -- The turn is the last one, or it was there before.
    rcases List.eq_nil_or_concat later with rfl | ⟨rest, last, rfl⟩
    · obtain ⟨rfl, same⟩ := List.append_inj' place rfl
      obtain ⟨rfl, -⟩ := List.cons.inj same
      exact ⟨call, s, rfl, given⟩
    · rw [List.concat_eq_append, ← List.cons_append, ← List.append_assoc] at place
      obtain ⟨before, -⟩ := List.append_inj' place rfl
      exact ih before

/-- A call that ends well is one more turn. -/
theorem Reached.turn_of_gives {turns : List Turn} {s s' : Session} {op : Operation} {reply : Reply}
    {a a' : Ambient} (before : Reached ⟨[s], turns⟩) (ran : op.run.Gives s a reply s' a')
    (given : ∀ held, op.given? = some held → ∃ turn ∈ turns, turn.result = .ok held) :
    Reached ⟨[s'], turns ++ [⟨s, op, .ok reply, s'⟩]⟩ := by
  have same : Call.turn ⟨op, a⟩ s = ⟨s, op, .ok reply, s'⟩ := by
    rw [← Call.result_of_gives ran, ← Call.after_of_gives ran]
    rfl
  have next : Reached ⟨[(Call.turn ⟨op, a⟩ s).after], turns ++ [Call.turn ⟨op, a⟩ s]⟩ :=
    before.called (i := 0) rfl given
  rw [same] at next
  exact next

/-- The calls of one session are calls of the application, if no object of another call goes into
them. -/
theorem Reached.history {turns : List Turn} {s : Session} {calls : List Call}
    (before : Reached ⟨[s], turns⟩) (plain : ∀ call ∈ calls, call.operation.given? = none) :
    Reached ⟨[s.after calls], turns ++ s.history calls⟩ := by
  induction calls generalizing s turns with
  | nil =>
    rw [Session.history, List.append_nil]
    exact before
  | cons call calls ih =>
    have none := plain call List.mem_cons_self
    have next : Reached ⟨[(call.turn s).after], turns ++ [call.turn s]⟩ :=
      before.called (i := 0) rfl fun reply given => by rw [none] at given; cases given
    have rest := ih next fun c hc => plain c (List.mem_cons_of_mem _ hc)
    rw [List.append_assoc] at rest
    exact rest

end Application

/-- A turn made an authorization, and its factors were shown for that. -/
def Turn.Authorizes (turn : Turn) (authorization : VaultAuthorization) : Prop :=
  turn.result = .ok (.authorization authorization) ∧ ∃ request keys record,
    turn.operation = .requestVault request keys authorization.factor
      ∧ turn.before.Proves record keys authorization.factor
      ∧ authorization.signature.activationId = record.activationId

theorem Call.authorizes {call : Call} {authorization : VaultAuthorization}
    (answered : (call.turn s).result = .ok (.authorization authorization)) :
    (call.turn s).Authorizes authorization := by
  obtain ⟨_, ran⟩ := Call.gives_of_result answered
  exact ⟨answered, Operation.proves_of_authorization ran⟩

/-- An authorization that a call was given was made before, with a second factor. -/
theorem Application.Reached.authorized {app : Application} {earlier later : List Turn} {turn : Turn}
    {authorization : VaultAuthorization} (reached : app.Reached)
    (place : app.turns = earlier ++ turn :: later)
    (given : turn.operation.given? = some (.authorization authorization)) :
    ∃ asked ∈ earlier, asked.Authorizes authorization := by
  obtain ⟨call, s, rfl, held⟩ := reached.given place
  obtain ⟨asked, inside, answered⟩ := held _ given
  obtain ⟨front, back, rfl⟩ := List.append_of_mem inside
  have place' : app.turns = front ++ asked :: (back ++ call.turn s :: later) := by
    rw [place, List.append_assoc, List.cons_append]
  obtain ⟨call', s', rfl, -⟩ := reached.given place'
  exact ⟨_, inside, Call.authorizes answered⟩

/-- **Nothing of the vault, and no confirmation, without a second factor.** Whatever an application has
come to, with any number of sessions: every authorization and every confirmation of a recovery code was
the answer of a call whose factors include knowledge or biometry, and every vault the answer of unlocking
it with an authorization from a call before that one. In each of these calls the unlock keys held a
possession key that opens the one stored in the active record, a password whose lock opens the stored
knowledge key if knowledge is one of the factors, and a biometry key that opens the stored one if biometry
is. A vault is unlocked in a session of the activation that the authorization names, and carries its
identifier; the same goes for a vault that is unlocked for one key. -/
theorem Application.second_factor {app : Application} {earlier later : List Turn} {turn : Turn}
    (reached : app.Reached) (place : app.turns = earlier ++ turn :: later) :
    (∀ authorization, turn.result = .ok (.authorization authorization) →
      turn.Authorizes authorization)
    ∧ (∀ confirmation, turn.result = .ok (.confirmation confirmation) → ∃ code keys record,
      turn.operation = .confirmRecovery code keys confirmation.signature.factor
        ∧ turn.before.Proves record keys confirmation.signature.factor
        ∧ confirmation.signature.activationId = record.activationId)
    ∧ (∀ vault, turn.result = .ok (.vault vault) → ∃ authorization keys encryptedKey record,
      turn.operation = .unlockVault authorization keys encryptedKey
        ∧ (∃ asked ∈ earlier, asked.Authorizes authorization)
        ∧ turn.before.Proves record keys authorization.factor
        ∧ record.activationId = authorization.signature.activationId
        ∧ vault.activationId = authorization.signature.activationId)
    ∧ ∀ key, turn.result = .ok (.key key) → ∃ authorization keys encryptedKey index record,
      turn.operation = .deriveOnce authorization keys encryptedKey index
        ∧ (∃ asked ∈ earlier, asked.Authorizes authorization)
        ∧ turn.before.Proves record keys authorization.factor
        ∧ record.activationId = authorization.signature.activationId := by
  have authorized : ∀ authorization, turn.operation.given? = some (.authorization authorization) →
      ∃ asked ∈ earlier, asked.Authorizes authorization := fun _ => reached.authorized place
  obtain ⟨call, s, rfl, -⟩ := reached.given place
  refine ⟨fun authorization => Call.authorizes, ?_, ?_, ?_⟩
  · intro confirmation answered
    obtain ⟨_, ran⟩ := Call.gives_of_result answered
    exact Operation.proves_of_confirmation ran
  · intro vault answered
    obtain ⟨_, ran⟩ := Call.gives_of_result answered
    obtain ⟨authorization, keys, encryptedKey, record, same, shown⟩ := Operation.proves_of_vault ran
    have given : call.operation.given? = some (.authorization authorization) := by
      rw [same]
      rfl
    exact ⟨authorization, keys, encryptedKey, record, same, authorized authorization given, shown⟩
  · intro key answered
    obtain ⟨_, ran⟩ := Call.gives_of_result answered
    obtain ⟨authorization, keys, encryptedKey, index, record, same, shown⟩ :=
      Operation.proves_of_key ran
    have given : call.operation.given? = some (.authorization authorization) := by
      rw [same]
      rfl
    exact ⟨authorization, keys, encryptedKey, index, record, same, authorized authorization given, shown⟩

/-- The vault of a new activation is unlocked with possession and knowledge, as it was asked for. -/
theorem Application.second_factor_of_fresh :
    let keys : UnlockKeys := ⟨some SymmetricKey.ones.bytes, none, some ⟨[1, 2, 3, 4]⟩⟩
    ∃ (app : Application) (earlier : List Turn) (turn : Turn) (vault : Vault)
      (authorization : VaultAuthorization) (record : Record),
      app.Reached ∧ app.turns = earlier ++ [turn] ∧ turn.result = .ok (.vault vault)
        ∧ (∃ asked ∈ earlier, asked.Authorizes authorization)
        ∧ turn.before.Proves record keys authorization.factor
        ∧ authorization.factor.usesKnowledge = true
        ∧ vault.activationId = authorization.signature.activationId := by
  intro keys
  let a : Ambient := ⟨⟨[], 7⟩, 0, []⟩
  let s := (Session.counting 0).at .empty
  let life : List Call := [⟨.begin none, a⟩, ⟨.establish (.ofServer .unit "activation" .zero none), a⟩,
    ⟨.commit keys, a⟩]
  let locks : Session.Locks := ⟨.ones, ⟨[1, 2, 3, 4]⟩, none⟩
  -- The two calls on the new activation.
  have accepted : Session.locks keys = .ok locks := rfl
  have valid : ∀ data, (none : Option RecoveryData) = some data → data.IsValid :=
    fun _ given => by cases given
  obtain ⟨record, data, h, iv, active, counter, k⟩ := Session.exists_after_commit .unit .zero
    (s.at_stage .empty) (by decide : "activation" ≠ "") valid accepted a
  have next : record.counter.next = .ok (.hashed (Counter.hashStep data)) := by
    rw [counter]
    rfl
  have request : Request.validate ⟨"POST", "/vault", [], none⟩ = .ok () := rfl
  have serve : keys.Serve locks .possessionKnowledge :=
    ⟨locks.own_unlockKeys, rfl, fun _ => rfl, nofun⟩
  obtain ⟨authorization, asked, encryptedKey, vault, _, _, asking, unlocking, factor⟩ :=
    k.exists_gives_vault active next request rfl (by decide) serve nofun a
  -- The application up to the commitment, and with each of them.
  have created : (Session.create s.setup).Gives a s _ :=
    Core.gives_bind.2 ⟨_, a, Session.validates_counting 0 a, by simp; exact ⟨rfl, rfl⟩⟩
  have plain : ∀ call ∈ life, call.operation.given? = none := by
    simp [life, Operation.given?]
  have before : Application.Reached ⟨[s.after life], s.history life⟩ :=
    (Application.Reached.created .start created).history plain
  have requested := before.turn_of_gives asking (by simp [Operation.given?])
  have reached := requested.turn_of_gives unlocking fun held given => by
    cases given
    exact ⟨_, List.mem_append_right _ List.mem_cons_self, rfl⟩
  obtain ⟨-, -, vaults, -⟩ := second_factor reached rfl
  obtain ⟨_, _, _, record, same, authorized, shown, -, carried⟩ := vaults vault rfl
  cases same
  exact ⟨_, _, _, vault, authorization, record, reached, rfl, rfl, authorized, shown, factor ▸ rfl,
    carried⟩

end DeviceAuth
