import DeviceAuth.Proofs.Session.Handshake
import DeviceAuth.Proofs.Session.KeyStore
import DeviceAuth.Proofs.Session.Storage

/-!
# The life of an activation

From the moment it is committed, an activation is used, blocked, unblocked, upgraded, stored and
restored, perhaps in another session, while its holder changes the password and takes the biometry
lock away or gives a new one. `Session.Course` is such a life, told together with what the holder has
at each point: the locks, and the vaults that were unlocked on the way.

The keys stay what they were: `Session.keys_of_course` says that at every point where the activation
can be used, the locks of that moment open exactly the keys below the master secret of the key
exchange. It is an induction over the life, with `Session.Keeps` as what every step preserves.

Two things are left open by the code itself, and each shows in the statement. Adding a biometry key
trusts the vault it is given; a vault opened with a wrong key that makes the right tag would have
given a wrong key pair, so the statement about the biometry key asks that no unlocked vault was of
that kind. And a state is restored from octets that hold the length of the identifier in eight of
them, so the identifier has to be short enough for that.
-/

set_option autoImplicit false

namespace DeviceAuth

/-! ## Lives -/

/-- Whether an operation leaves the locks of an activation alone. -/
def Operation.keepsLocks : Operation → Bool
  | reset => false
  | deserialize _ => false
  | changePassword _ _ => false
  | removeBiometry => false
  | addBiometry _ _ => false
  | _ => true

/-- A life of an activation: it leads from a session and some locks to the session, the locks and the
unlocked vaults of a later moment. -/
inductive Session.Course (first : Session) (initial : Session.Locks) :
    Session → Session.Locks → List Vault → Prop
  | start : Course first initial first initial []
  | failed {s s' : Session} {locks : Session.Locks} {vaults : List Vault} {op : Operation}
      {a a' : Ambient} {e : Failure} (course : Course first initial s locks vaults)
      (ran : op.run.result s a = ((.error e, s'), a')) : Course first initial s' locks vaults
  | used {s s' : Session} {locks : Session.Locks} {vaults : List Vault} {op : Operation}
      {reply : Reply} {a a' : Ambient} (course : Course first initial s locks vaults)
      (keeps : op.keepsLocks = true) (ran : op.run.Gives s a reply s' a') :
    Course first initial s' locks vaults
  | unlocked {s s' : Session} {locks : Session.Locks} {vaults : List Vault}
      {authorization : VaultAuthorization} {keys : UnlockKeys} {encryptedKey : String} {vault : Vault}
      {a a' : Ambient} (course : Course first initial s locks vaults)
      (ran : (Operation.unlockVault authorization keys encryptedKey).run.Gives s a (.vault vault)
        s' a') :
    Course first initial s' locks (vault :: vaults)
  | changedPassword {s s' : Session} {locks : Session.Locks} {vaults : List Vault} {new : Password}
      {reply : Reply} {a a' : Ambient} (course : Course first initial s locks vaults)
      (ran : (Operation.changePassword locks.password new).run.Gives s a reply s' a') :
    Course first initial s' { locks with password := new } vaults
  | removedBiometry {s s' : Session} {locks : Session.Locks} {vaults : List Vault} {reply : Reply}
      {a a' : Ambient} (course : Course first initial s locks vaults)
      (ran : Operation.removeBiometry.run.Gives s a reply s' a') :
    Course first initial s' { locks with biometry := none } vaults
  | addedBiometry {s s' : Session} {locks : Session.Locks} {vaults : List Vault} {vault : Vault}
      {keys : UnlockKeys} {lock : SymmetricKey} {reply : Reply} {a a' : Ambient}
      (course : Course first initial s locks vaults) (own : vault ∈ vaults)
      (given : UnlockKeys.require .biometry keys.biometry = .ok lock)
      (ran : (Operation.addBiometry vault keys).run.Gives s a reply s' a') :
    Course first initial s' { locks with biometry := some lock } vaults
  | restored {s t t' : Session} {locks : Session.Locks} {vaults : List Vault} {reply : Reply}
      {a a' : Ambient} (course : Course first initial s locks vaults)
      (external : t.external = s.external)
      (ran : (Operation.deserialize s.serialize).run.Gives t a reply t' a') :
    Course first initial t' locks vaults

/-! ## What is preserved -/

/-- The master secret of a handshake comes from its own key exchange. -/
def Handshake.Exchanged (h : Handshake) : Prop :=
  h.master = Kdf.reduce (h.pair.sharedSecret h.serverKey)

/-- A session is in step with the locks and vaults somebody holds. -/
structure Session.Keeps (s : Session) (h : Handshake) (iv : Octets 16) (locks : Session.Locks)
    (vaults : List Vault) : Prop where
  usable : locks.Usable
  unlocked : ∀ vault ∈ vaults, vault.pair = h.pair ∨ h.Mistakes iv vault
  settled : s.stage.settled = true
  record : ∀ record, s.stage = .activated record → record.Keeps h iv s.external locks vaults

variable {s s' : Session} {h : Handshake} {iv : Octets 16} {locks : Session.Locks}
  {vaults : List Vault} {op : Operation} {reply : Reply} {record : Record}

namespace Session.Keeps

theorem at_removed (k : s.Keeps h iv locks vaults) : (s.at .removed).Keeps h iv locks vaults :=
  ⟨k.usable, k.unlocked, rfl, fun _ stage => by cases stage⟩

/-- Whatever an operation does to the record and the locks, the vaults stay what they were. -/
theorem at_activated {locks' : Session.Locks} (k : s.Keeps h iv locks vaults)
    (usable : locks'.Usable) (kept : record.Keeps h iv s.external locks' vaults) :
    (s.at (.activated record)).Keeps h iv locks' vaults := by
  refine ⟨usable, k.unlocked, rfl, fun _ stage => ?_⟩
  cases stage
  exact kept

theorem of_active (k : s.Keeps h iv locks vaults) (active : s.activeRecord = .ok record) :
    record.Keeps h iv s.external locks vaults :=
  k.record record (Session.activeRecord_eq_ok_iff.1 active).1

end Session.Keeps

/-- An operation that leaves the locks alone leaves the session in step with them. -/
theorem Transition.keeps_step (moved : Transition s op reply s') (keeps : op.keepsLocks = true)
    (k : s.Keeps h iv locks vaults) : s'.Keeps h iv locks vaults := by
  have settled := k.settled
  cases moved with
  | begun empty => simp [empty, Stage.settled] at settled
  | begunRecovery empty => simp [empty, Stage.settled] at settled
  | established begun => simp [begun, Stage.settled] at settled
  | committed established => simp [established, Stage.settled] at settled
  | removed activated => exact k.at_removed
  | removedAgain removed => exact k
  | reset => cases keeps
  | signed signs => exact k.at_activated k.usable { k.of_active signs.active with }
  | vaultRequested factors signs => exact k.at_activated k.usable { k.of_active signs.active with }
  | recoveryConfirmed factors isCode signs =>
    refine k.at_activated k.usable (Record.Keeps.rememberCode ?_ _)
    exact { k.of_active signs.active with }
  | applied blocked activated => exact k.at_activated k.usable { k.record _ activated with }
  | removedOnServer activated => exact k.at_removed
  | upgraded active old => exact k.at_activated k.usable { k.of_active active with }
  | restored decoded => cases keeps
  | passwordChanged active => cases keeps
  | biometryRemoved active => cases keeps
  | biometryAdded active => cases keeps
  | observed observes => exact k

namespace Session.Keeps

theorem unlockVault {authorization : VaultAuthorization} {keys : UnlockKeys} {encryptedKey : String}
    {vault : Vault} {a a' : Ambient} (k : s.Keeps h iv locks vaults)
    (ran : (Operation.unlockVault authorization keys encryptedKey).run.Gives s a (.vault vault)
      s' a') :
    s'.Keeps h iv locks (vault :: vaults) := by
  obtain ⟨_, asked, same⟩ := Change.gives_map.1 ran
  cases same
  obtain ⟨unlocked, rfl⟩ := Transition.of_ask asked
  obtain ⟨record, own⟩ := Vault.belongs_of_unlock unlocked
  refine ⟨k.usable, ?_, k.settled, fun record stage => (k.record record stage).mono ?_⟩
  · exact List.forall_mem_cons.2 ⟨(k.of_active own.active).pair_of_belongs own, k.unlocked⟩
  · exact fun vault => List.mem_cons_of_mem _

theorem changePassword {new : Password} {a a' : Ambient} (k : s.Keeps h iv locks vaults)
    (ran : (Operation.changePassword locks.password new).run.Gives s a reply s' a') :
    s'.Keeps h iv { locks with password := new } vaults := by
  have usable : ({ locks with password := new } : Locks).Usable := { k.usable with }
  cases Transition.of_gives ran with
  | passwordChanged active long outside oldLocked opened locked kept =>
    have own := k.of_active active
    obtain rfl := Except.ok.inj (own.externalFor_eq.symm.trans outside)
    exact k.at_activated usable (own.changePassword oldLocked opened locked kept)
  | observed observes => cases observes

theorem removeBiometry {a a' : Ambient} (k : s.Keeps h iv locks vaults)
    (ran : Operation.removeBiometry.run.Gives s a reply s' a') :
    s'.Keeps h iv { locks with biometry := none } vaults := by
  have usable : ({ locks with biometry := none } : Locks).Usable :=
    { k.usable with biometry := fun _ given => by cases given }
  cases Transition.of_gives ran with
  | biometryRemoved active => exact k.at_activated usable (k.of_active active).removeBiometry
  | observed observes => cases observes

theorem addBiometry {vault : Vault} {keys : UnlockKeys} {lock : SymmetricKey} {a a' : Ambient}
    (k : s.Keeps h iv locks vaults) (exchanged : h.Exchanged) (own : vault ∈ vaults)
    (given : UnlockKeys.require .biometry keys.biometry = .ok lock)
    (ran : (Operation.addBiometry vault keys).run.Gives s a reply s' a') :
    s'.Keeps h iv { locks with biometry := some lock } vaults := by
  have usable : ({ locks with biometry := some lock } : Locks).Usable :=
    { k.usable with
      biometry := fun _ same => by cases same; exact (UnlockKeys.require_eq_ok_iff.1 given).2 }
  have right : vault.pair = h.pair ∨ ∃ vault ∈ vaults, h.Mistakes iv vault :=
    (k.unlocked vault own).imp_right fun mistaken => ⟨vault, own, mistaken⟩
  cases Transition.of_gives ran with
  | biometryAdded active named valid given' key outside kept =>
    obtain rfl := Except.ok.inj (given.symm.trans given')
    have before := k.of_active active
    obtain rfl := Except.ok.inj (before.externalFor_eq.symm.trans outside)
    exact k.at_activated usable (before.addBiometry exchanged right key kept)
  | observed observes => cases observes

/-- What is stored of a session in step with its locks can be read back. -/
theorem fits (k : s.Keeps h iv locks vaults) (short : (Bytes.ofText h.activationId).length < 2 ^ 64) :
    s.stored.Fits := by
  unfold Session.stored
  cases stage : s.stage with
  | activated record => exact (k.record record stage).fits short
  | _ => trivial

/-- **A state that was stored can be restored**, in any session. -/
theorem exists_gives_deserialize (k : s.Keeps h iv locks vaults)
    (short : (Bytes.ofText h.activationId).length < 2 ^ 64) (t : Session) (a : Ambient) :
    ∃ a', (Session.deserialize s.serialize).Gives t a () (t.at s.stage) a' := by
  rw [← stageOf_stored_of_settled k.settled]
  exact gives_deserialize (Stored.decode_encode (k.fits short)) t a

theorem restore {t t' : Session} {a a' : Ambient} (k : s.Keeps h iv locks vaults)
    (short : (Bytes.ofText h.activationId).length < 2 ^ 64) (external : t.external = s.external)
    (ran : (Operation.deserialize s.serialize).run.Gives t a reply t' a') :
    t'.Keeps h iv locks vaults := by
  obtain ⟨_, restored, -⟩ := Change.gives_map.1 ran
  obtain rfl := eq_of_gives_deserialize k.settled (k.fits short) restored
  -- Only the stage comes out of the octets. The external key is the one of the other session.
  refine ⟨k.usable, k.unlocked, k.settled, fun record stage => ?_⟩
  rw [at_external, external]
  exact k.record record stage

/-- The holder of the locks can change the password. -/
theorem exists_gives_changePassword {new : Password} (k : s.Keeps h iv locks vaults)
    (active : s.activeRecord = .ok record) (long : new.isAcceptable = true) (a : Ambient) :
    ∃ next a', (Session.changePassword locks.password new).Gives s a () (s.at (.activated next)) a'
      ∧ next.blocked = false ∧ next.counter = record.counter := by
  have own := k.of_active active
  obtain ⟨lock, locked, opens⟩ := own.knowledge
  obtain ⟨stored, salt, -, a', changed⟩ :=
    Session.exists_gives_changePassword active long own.externalFor_eq locked opens a
  exact ⟨_, a', changed, (Session.activeRecord_eq_ok_iff.1 active).2, rfl⟩

/-- **A life can go on** wherever the activation can be used: the password is changed, and what is stored
then is restored in another session with the same external key. -/
theorem exists_renewed {first t : Session} {initial : Session.Locks} {new : Password}
    (k : s.Keeps h iv locks vaults) (course : Session.Course first initial s locks vaults)
    (short : (Bytes.ofText h.activationId).length < 2 ^ 64) (active : s.activeRecord = .ok record)
    (long : new.isAcceptable = true) (external : t.external = s.external) (a : Ambient) :
    ∃ changed current next a' b, (Session.changePassword locks.password new).Gives s a () changed a'
      ∧ (Session.deserialize changed.serialize).Gives t a' () current b
      ∧ Session.Course first initial current { locks with password := new } vaults
      ∧ current.Keeps h iv { locks with password := new } vaults
      ∧ current.activeRecord = .ok next ∧ next.counter = record.counter := by
  obtain ⟨next, a', changed, unblocked, counter⟩ := k.exists_gives_changePassword active long a
  have changing : (Operation.changePassword locks.password new).run.Gives s a .done
      (s.at (.activated next)) a' := Change.gives_map.2 ⟨(), changed, rfl⟩
  have renewed := k.changePassword changing
  obtain ⟨b, taken⟩ := renewed.exists_gives_deserialize short t a'
  have restoring : (Operation.deserialize (s.at (.activated next)).serialize).run.Gives t a' .done
      (t.at (.activated next)) b := Change.gives_map.2 ⟨(), taken, rfl⟩
  have lived := (course.changedPassword changing).restored external restoring
  exact ⟨_, _, next, a', b, changed, taken, lived, renewed.restore short external restoring,
    Session.activeRecord_eq_ok_iff.2 ⟨rfl, unblocked⟩, counter⟩

end Session.Keeps

/-- **A life keeps the session in step** with what the holder has. -/
theorem Session.Course.keeps {first : Session} {initial : Session.Locks}
    (course : Session.Course first initial s locks vaults) (exchanged : h.Exchanged)
    (short : (Bytes.ofText h.activationId).length < 2 ^ 64) (start : first.Keeps h iv initial []) :
    s.Keeps h iv locks vaults := by
  -- What the holder has changes with the step, so the induction carries it along.
  induction course with
  | start => exact start
  | @failed s s' locks vaults op a a' e _ ran ih =>
    obtain rfl : s' = s := op.atomic_run s a e s' a' ran
    exact ih
  | used _ keeps ran ih => exact (Transition.of_gives ran).keeps_step keeps ih
  | unlocked _ ran ih => exact ih.unlockVault ran
  | changedPassword _ ran ih => exact ih.changePassword ran
  | removedBiometry _ ran ih => exact ih.removeBiometry ran
  | addedBiometry _ own given ran ih => exact ih.addBiometry exchanged own given ran
  | restored _ external ran ih => exact ih.restore short external ran

/-! ## Where lives begin -/

theorem Transition.exchanged_step (moved : Transition s op reply s')
    (before : ∀ h, s.stage = .established h → h.Exchanged) :
    ∀ h, s'.stage = .established h → h.Exchanged := by
  intro h after
  cases moved with
  | established begun named encoded key counter =>
    cases after
    rfl
  | @restored _ stored decoded => cases stored <;> cases after
  | removedAgain removed => exact before h after
  | observed observes => exact before h after
  | _ => cases after

/-- Whatever was called on an empty session, a handshake it holds comes from a key exchange. -/
theorem Session.exchanged_after {calls : List Call} (empty : s.stage = .empty)
    (established : (s.after calls).stage = .established h) : h.Exchanged := by
  have step : ∀ (s : Session) op reply s', True → (∀ h, s.stage = .established h → h.Exchanged) →
      Transition s op reply s' → ∀ h, s'.stage = .established h → h.Exchanged :=
    fun _ _ _ _ _ before moved => moved.exchanged_step before
  have start : ∀ h, s.stage = .established h → h.Exchanged := by
    intro h stage
    rw [empty] at stage
    cases stage
  exact preserved step start (fun _ _ => True.intro) h established

theorem Session.activationId?_of_established (established : s.stage = .established h) :
    s.activationId? = some h.activationId := by
  unfold activationId?
  rw [established]

/-- An activation is called what the server called it. -/
theorem Session.activationId_of_establish {established : Session} {answer : ActivationAnswer}
    {outcome : ActivationOutcome} {a a' : Ambient}
    (answered : (Session.establish answer).Gives s a outcome established a')
    (exchange : established.stage = .established h) : h.activationId = answer.activationId := by
  cases Transition.of_establish answered with
  | established begun =>
    obtain rfl := Stage.established.inj exchange
    rfl
  | observed observes => cases observes

/-- A commitment starts in step with the locks it was given. -/
theorem Session.keeps_of_commit {keys : UnlockKeys} {a a' : Ambient} {u : Unit}
    (accepted : Session.locks keys = .ok locks)
    (committed : (Session.commit keys).Gives s a u s' a') :
    ∃ h iv, s.stage = .established h ∧ s'.Keeps h iv locks [] := by
  cases Transition.of_commit committed with
  | @committed _ h locks' stored iv _ _ established accepted' kept =>
    obtain rfl := Except.ok.inj (accepted.symm.trans accepted')
    refine ⟨h, iv, established, Locks.usable_of_accepted accepted, ?_, rfl, ?_⟩
    · exact fun _ none => absurd none List.not_mem_nil
    · rintro _ ⟨⟩
      exact Record.Keeps.of_storeKeys kept
  | observed observes => cases observes

/-- **The keys of an activation stay the keys of its key exchange.** Whatever brought a session to its
commitment, and whatever life the activation has after it, where it can be used the locks of that
moment unlock the keys below the master secret: the signature keys of every combination of factors
that are stored, and the transport key. The key of the vault opens the device's private key. -/
theorem Session.keys_of_course {empty first : Session} {calls : List Call} {keys : UnlockKeys}
    {initial : Session.Locks} {a a' : Ambient} (new : empty.stage = .empty)
    (short : ∀ id, (empty.after calls).activationId? = some id → (Bytes.ofText id).length < 2 ^ 64)
    (accepted : Session.locks keys = .ok initial)
    (committed : (Session.commit keys).Gives (empty.after calls) a () first a')
    (course : Session.Course first initial s locks vaults) (active : s.activeRecord = .ok record) :
    ∃ h, (empty.after calls).stage = .established h
      ∧ (∀ factor : SignatureFactor,
        (factor.usesBiometry = true → record.hasBiometry = true ∧ ∀ vault ∈ vaults,
          ¬KeyWrap.Collision (h.master.derive KeyIndex.vault).bytes vault.key.bytes
            record.devicePrivate) →
        (s.unlockSignatureKeys record locks.unlockKeys factor).Returns
          (h.master.signatureKeys factor))
      ∧ (s.unlockTransportKey record locks.unlockKeys).Returns (h.master.derive KeyIndex.transport)
      ∧ KeyWrap.reveal (h.master.derive KeyIndex.vault).bytes record.devicePrivate
        = .ok h.pair.privateBytes := by
  obtain ⟨h, iv, established, start⟩ := keeps_of_commit accepted committed
  have exchanged := exchanged_after new established
  have k := course.keeps exchanged (short _ (activationId?_of_established established)) start
  have own := k.of_active active
  refine ⟨h, established, fun factor right => ?_, own.returns_transport k.usable,
    own.reveal_devicePrivate⟩
  refine (own.unlocks k.usable fun used => ?_).returns
  rw [own.devicePrivate] at right
  exact right used

/-- A new activation whose password is changed, and which is then restored after a reset. -/
theorem Session.exists_renewed_of_fresh (a : Ambient) :
    let keys : UnlockKeys := ⟨some SymmetricKey.ones.bytes, none, some ⟨[1, 2, 3, 4]⟩⟩
    let answer := ActivationAnswer.ofServer .unit "activation" .zero none
    let exchanged := ((Session.counting 0).at .empty).after
      [⟨.begin none, a⟩, ⟨.establish answer, a⟩]
    (∀ id, exchanged.activationId? = some id → (Bytes.ofText id).length < 2 ^ 64)
    ∧ ∃ first changed current record a₁ a₂ a₃, (Session.commit keys).Gives exchanged a () first a₁
      ∧ (Session.changePassword ⟨[1, 2, 3, 4]⟩ ⟨[5, 6, 7, 8]⟩).Gives first a₁ () changed a₂
      ∧ (Session.deserialize changed.serialize).Gives (first.at .empty) a₂ () current a₃
      ∧ Session.Course first ⟨.ones, ⟨[1, 2, 3, 4]⟩, none⟩ current ⟨.ones, ⟨[5, 6, 7, 8]⟩, none⟩ []
      ∧ current.activeRecord = .ok record := by
  intro keys answer exchanged
  have named : "activation" ≠ "" := by decide
  have valid : ∀ data, (none : Option RecoveryData) = some data → data.IsValid :=
    fun _ given => by cases given
  obtain ⟨pair, same⟩ :=
    exists_after_exchange .unit .zero ((counting 0).at_stage .empty) named valid a a
  have established : exchanged.stage = .established _ := congrArg Session.stage same
  have short : ∀ id, exchanged.activationId? = some id → (Bytes.ofText id).length < 2 ^ 64 := by
    intro id found
    rw [activationId?_of_established established] at found
    cases found
    show (Bytes.ofText "activation").length < 2 ^ 64
    decide
  have accepted : Session.locks keys = .ok ⟨.ones, ⟨[1, 2, 3, 4]⟩, none⟩ := rfl
  obtain ⟨first, a₁, committed⟩ := exists_gives_commit established accepted a
  obtain ⟨h, iv, established, start⟩ := keeps_of_commit accepted committed
  obtain ⟨_, -, active, -⟩ := exists_activeRecord_of_commit committed
  have fits := short _ (activationId?_of_established established)
  have long : (⟨[5, 6, 7, 8]⟩ : Password).isAcceptable = true := rfl
  have outside : (first.at .empty).external = first.external := rfl
  obtain ⟨changed, current, record, a₂, a₃, changing, restoring, course, -, active, -⟩ :=
    start.exists_renewed .start fits active long outside a₁
  exact ⟨short, first, changed, current, record, a₁, a₂, a₃, committed, changing, restoring, course,
    active⟩

/-- The possession and knowledge keys of an activation whose password was changed, and that was restored
after a reset. The new password opens them. -/
theorem Session.signatureKeys_of_renewed :
    let a : Ambient := ⟨⟨[], 7⟩, 0, []⟩
    let keys : UnlockKeys := ⟨some SymmetricKey.ones.bytes, none, some ⟨[1, 2, 3, 4]⟩⟩
    let renewed : UnlockKeys := ⟨some SymmetricKey.ones.bytes, none, some ⟨[5, 6, 7, 8]⟩⟩
    let answer := ActivationAnswer.ofServer .unit "activation" .zero none
    let exchanged := ((Session.counting 0).at .empty).after
      [⟨.begin none, a⟩, ⟨.establish answer, a⟩]
    ∃ first changed current record h a₁ a₂ a₃, (Session.commit keys).Gives exchanged a () first a₁
      ∧ (Session.changePassword ⟨[1, 2, 3, 4]⟩ ⟨[5, 6, 7, 8]⟩).Gives first a₁ () changed a₂
      ∧ (Session.deserialize changed.serialize).Gives (first.at .empty) a₂ () current a₃
      ∧ current.activeRecord = .ok record ∧ exchanged.stage = .established h
      ∧ (current.unlockSignatureKeys record renewed .possessionKnowledge).Returns
        (h.master.signatureKeys .possessionKnowledge) := by
  intro a keys renewed answer exchanged
  obtain ⟨short, first, changed, current, record, a₁, a₂, a₃, committed, changing, restoring, course,
    active⟩ := exists_renewed_of_fresh a
  have accepted : Session.locks keys = .ok ⟨.ones, ⟨[1, 2, 3, 4]⟩, none⟩ := rfl
  obtain ⟨h, established, unlocked, -⟩ := keys_of_course rfl short accepted committed course active
  exact ⟨first, changed, current, record, h, a₁, a₂, a₃, committed, changing, restoring, active,
    established, unlocked .possessionKnowledge nofun⟩

end DeviceAuth
