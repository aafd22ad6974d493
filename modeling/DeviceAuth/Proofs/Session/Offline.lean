import DeviceAuth.Proofs.Session.Course
import DeviceAuth.Proofs.Session.Frame
import DeviceAuth.Proofs.Session.Upgrade

/-!
# Offline signatures

An offline signature is made of the request, its nonce and the keys that were unlocked. Two sessions
whose unlock keys reach the same keys therefore make the same one, whatever else is different between
them. `Core.Relates` compares two operations of the core in any two surroundings, and signing offline is
taken apart with it once (`Session.relates_signOffline`): the only step where the two sessions matter is
unlocking.

What is stored of a key may change while the key stays. `Session.Matches` says of two records and the
unlock keys for them that unlocking takes the same course in both, errors included. Everything that
leaves an activation in use leaves it so (`Transition.stays_in_use`); so do a new password, with that
password, and restoring what was stored. `Session.Continues` is any number of these steps.
-/

set_option autoImplicit false

namespace DeviceAuth

/-! ## Operations side by side -/

namespace Core

variable {α β : Type} {R : α → α → Prop} {x y z : Core α}

/-- Two operations end alike, each in any surroundings: with the same failure, or with related
results. -/
def Relates (R : α → α → Prop) (x y : Core α) : Prop :=
  ∀ a b, (∃ e, (x.result a).1 = .error e ∧ (y.result b).1 = .error e)
    ∨ ∃ v w, (x.result a).1 = .ok v ∧ (y.result b).1 = .ok w ∧ R v w

theorem relates_eq_iff : Relates Eq x y ↔ ∀ a b, (x.result a).1 = (y.result b).1 := by
  constructor
  · intro h a b
    obtain ⟨e, hx, hy⟩ | ⟨v, _, hx, hy, rfl⟩ := h a b
    · exact hx.trans hy.symm
    · exact hx.trans hy.symm
  · intro h a b
    cases hx : (x.result a).1 with
    | error e => exact .inl ⟨e, rfl, (h a b).symm.trans hx⟩
    | ok v => exact .inr ⟨v, v, rfl, (h a b).symm.trans hx, rfl⟩

theorem Relates.trans (hxy : Relates Eq x y) (hyz : Relates Eq y z) : Relates Eq x z := by
  rw [relates_eq_iff] at hxy hyz ⊢
  exact fun a b => (hxy a a).trans (hyz a b)

theorem relates_of_returns {v w : α} (hx : x.Returns v) (hy : y.Returns w) (h : R v w) :
    Relates R x y :=
  fun a b => .inr ⟨v, w, congrArg Prod.fst (hx a), congrArg Prod.fst (hy b), h⟩

theorem relates_pure {v w : α} (h : R v w) : Relates R (pure v) (pure w) :=
  relates_of_returns (fun _ => gives_pure.2 ⟨rfl, rfl⟩) (fun _ => gives_pure.2 ⟨rfl, rfl⟩) h

theorem relates_throw (e : Failure) : Relates R (throw e) (throw e) :=
  fun _ _ => .inl ⟨e, rfl, rfl⟩

theorem relates_checked (x : Except Failure α) : Relates Eq (liftM x) (liftM x) := by
  cases x with
  | error e => exact fun _ _ => .inl ⟨e, rfl, rfl⟩
  | ok v => exact fun _ _ => .inr ⟨v, v, rfl, rfl, rfl⟩

theorem relates_reasoned (x : Except Reason α) : Relates Eq (liftM x) (liftM x) := by
  cases x with
  | error why => exact fun _ _ => .inl ⟨.encryption, rfl, rfl⟩
  | ok v => exact fun _ _ => .inr ⟨v, v, rfl, rfl, rfl⟩

theorem Relates.bind {S : β → β → Prop} {f g : α → Core β} (h : Relates R x y)
    (hf : ∀ v w, R v w → Relates S (f v) (g w)) : Relates S (x >>= f) (y >>= g) := by
  intro a b
  rw [result_bind, result_bind]
  obtain ⟨e, hx, hy⟩ | ⟨v, w, hx, hy, related⟩ := h a b
  · rw [← Prod.eta (x.result a), ← Prod.eta (y.result b), hx, hy]
    exact .inl ⟨e, rfl, rfl⟩
  · rw [← Prod.eta (x.result a), ← Prod.eta (y.result b), hx, hy]
    exact hf v w related _ _

theorem Relates.bind_eq {S : β → β → Prop} {f g : α → Core β} (h : Relates Eq x y)
    (hf : ∀ v, Relates S (f v) (g v)) : Relates S (x >>= f) (y >>= g) :=
  h.bind fun v _ same => same ▸ hf v

/-- Two operations that begin with the same check. -/
theorem relates_checked_bind {S : β → β → Prop} (x : Except Failure α) {f g : α → Core β}
    (hf : ∀ v, x = .ok v → Relates S (f v) (g v)) : Relates S (liftM x >>= f) (liftM x >>= g) := by
  cases x with
  | error e => exact fun _ _ => .inl ⟨e, rfl, rfl⟩
  | ok v => exact hf v rfl

/-- Two operations that begin with checks that pass. -/
theorem relates_ok_bind {S : β → β → Prop} {u v : Except Failure α} {f g : α → Core β} {a b : α}
    (hu : u = .ok a) (hv : v = .ok b) (h : Relates S (f a) (g b)) :
    Relates S (liftM u >>= f) (liftM v >>= g) := by
  rw [hu, hv]
  exact h

/-- Two operations that go on from either of two beginnings, both of them from the same one. -/
theorem relates_ite_bind {S : β → β → Prop} {c : Prop} [Decidable c] {x' y' : Core α}
    {f g : α → Core β} (yes : c → Relates R x y) (no : ¬c → Relates R x' y')
    (hf : ∀ v w, R v w → Relates S (f v) (g w)) :
    Relates S (if c then x >>= f else x' >>= f) (if c then y >>= g else y' >>= g) := by
  by_cases h : c
  · rw [if_pos h, if_pos h]
    exact (yes h).bind hf
  · rw [if_neg h, if_neg h]
    exact (no h).bind hf

theorem Relates.map {S : β → β → Prop} {f : α → β} (h : Relates R x y)
    (hf : ∀ v w, R v w → S (f v) (f w)) : Relates S (f <$> x) (f <$> y) := by
  rw [map_eq_pure_bind, map_eq_pure_bind]
  exact h.bind fun v w related => relates_pure (hf v w related)

end Core

open DeviceAuth.Core

variable {s t s' : Session} {record record' : Record} {keys keys' : UnlockKeys}
  {factor : SignatureFactor} {request : Request}

/-! ## Signing -/

/-- **What is signed offline depends on the unlocked keys alone**, besides the request. -/
theorem Session.relates_signOffline (active : s.activeRecord = .ok record)
    (active' : t.activeRecord = .ok record')
    (unlocking : Relates Eq (s.unlockSignatureKeys record keys factor)
      (t.unlockSignatureKeys record' keys' factor)) :
    Relates Eq (s.signOffline request keys factor) (t.signOffline request keys' factor) := by
  unfold signOffline
  refine relates_ok_bind active active' (relates_checked_bind _ fun _ _ => ?_)
  cases request.offlineNonce with
  | none => exact Relates.bind (R := fun _ _ => False) (relates_throw _) fun _ _ => False.elim
  | some text =>
    refine (relates_pure rfl).bind_eq fun text => (relates_reasoned _).bind_eq fun octets => ?_
    exact unlocking.bind_eq fun found => relates_checked _

/-! ## Unlocking -/

theorem StoredKey.relates_reveal (stored : StoredKey) (lock : SymmetricKey)
    (external : Option SymmetricKey) :
    Relates Eq (stored.reveal lock external) (stored.reveal lock external) := by
  refine (relates_reasoned _).bind_eq fun wrapped => (relates_reasoned _).bind_eq fun plain => ?_
  cases (Octets.ofBytes? plain : Option (Octets 16)) with
  | none => exact relates_throw _
  | some key => exact relates_pure rfl

theorem Session.relates_unlockKnowledge (external : Option SymmetricKey) (password : Password)
    (salt : record'.keys.salt = record.keys.salt)
    (knowledge : record'.keys.knowledge = record.keys.knowledge) :
    Relates Eq (unlockKnowledge record external password)
      (unlockKnowledge record' external password) := by
  unfold unlockKnowledge
  rw [salt, knowledge]
  exact (relates_checked _).bind_eq fun lock => StoredKey.relates_reveal _ lock external

/-- Two passwords, each for a record of its own: they unlock alike. -/
def Session.PasswordsMatch (s : Session) (record record' : Record) :
    Option Password → Option Password → Prop
  | none, none => True
  | some password, some password' => ∀ external, s.externalFor record = .ok external →
    Relates Eq (unlockKnowledge record external password) (unlockKnowledge record' external password')
  | _, _ => False

/-- Unlocking takes the same course for two records, with unlock keys for each: they differ at most in
the password and what is stored under it. -/
structure Session.Matches (s : Session) (record : Record) (keys : UnlockKeys) (t : Session)
    (record' : Record) (keys' : UnlockKeys) : Prop where
  possession : keys'.possession = keys.possession
  biometry : keys'.biometry = keys.biometry
  external : t.externalFor record' = s.externalFor record
  storedPossession : record'.keys.possession = record.keys.possession
  storedBiometry : record'.keys.biometry = record.keys.biometry
  passwords : s.PasswordsMatch record record' keys.password keys'.password

theorem Session.Matches.relates_requirePassword (h : s.Matches record keys t record' keys') :
    Relates (fun password password' => s.PasswordsMatch record record' (some password) (some password'))
      (liftM keys.requirePassword) (liftM keys'.requirePassword) := by
  have passwords := h.passwords
  unfold UnlockKeys.requirePassword
  cases given : keys.password with
  | none =>
    cases given' : keys'.password with
    | none => exact relates_throw _
    | some password' =>
      rw [given, given'] at passwords
      exact passwords.elim
  | some password =>
    cases given' : keys'.password with
    | none =>
      rw [given, given'] at passwords
      exact passwords.elim
    | some password' =>
      rw [given, given'] at passwords
      exact relates_pure passwords

/-- **Matching records unlock alike**, whatever fails. -/
theorem Session.Matches.relates (h : s.Matches record keys t record' keys') (factor : SignatureFactor) :
    Relates Eq (s.unlockSignatureKeys record keys factor)
      (t.unlockSignatureKeys record' keys' factor) := by
  have valid : keys'.validate = keys.validate := by
    unfold UnlockKeys.validate
    rw [h.possession, h.biometry]
  have lock : biometryLock record' keys' = biometryLock record keys := by
    unfold biometryLock
    rw [h.biometry, h.storedBiometry]
  unfold unlockSignatureKeys
  rw [valid, h.possession, lock, h.external, h.storedPossession]
  refine (relates_checked _).bind_eq fun _ => (relates_checked _).bind_eq fun possessionLock => ?_
  refine relates_ite_bind (R := s.PasswordsMatch record record')
    (fun _ => h.relates_requirePassword.map fun _ _ => id) (fun _ => relates_pure True.intro) ?_
  intro given given' passwords
  refine relates_ite_bind (R := Eq) (fun _ => (relates_checked _).map fun _ _ => congrArg some)
    (fun _ => relates_pure rfl) ?_
  rintro biometry _ rfl
  refine relates_checked_bind _ fun external outside => ?_
  refine (StoredKey.relates_reveal _ _ _).bind_eq fun possession => ?_
  -- What is left is the keys themselves, of the same factors on both sides.
  cases given with
  | none =>
    cases given' with
    | none =>
      cases biometry with
      | none => exact relates_pure rfl
      | some held => exact (StoredKey.relates_reveal _ _ _).bind_eq fun key => relates_pure rfl
    | some password' => exact passwords.elim
  | some password =>
    cases given' with
    | none => exact passwords.elim
    | some password' =>
      refine (passwords external outside).bind_eq fun knowledge => ?_
      cases biometry with
      | none => exact relates_pure rfl
      | some held => exact (StoredKey.relates_reveal _ _ _).bind_eq fun key => relates_pure rfl

/-! ## Steps -/

/-- Records with the same keys match, with the same unlock keys. -/
theorem Session.matches_of_keys (external : t.externalFor record' = s.externalFor record)
    (same : record'.keys = record.keys) (keys : UnlockKeys) :
    s.Matches record keys t record' keys := by
  refine ⟨rfl, rfl, external, congrArg _ same, congrArg _ same, ?_⟩
  cases keys.password with
  | none => exact True.intro
  | some password =>
    exact fun external _ => relates_unlockKnowledge external password (congrArg _ same) (congrArg _ same)

/-- Whether an operation leaves an activation in use, with the locks it has. -/
def Operation.keepsUse : Operation → Bool
  | remove => false
  | applyStatus status => status.state ≠ .blocked ∧ status.state ≠ .removed
  | op => op.keepsLocks

variable {op : Operation} {reply : Reply} {a a' : Ambient}

/-- What leaves an activation in use leaves its keys alone, and what they are reached with. -/
theorem Transition.stays_in_use (moved : Transition s op reply s') (keeps : op.keepsUse = true)
    (active : s.activeRecord = .ok record) :
    ∃ next, s'.activeRecord = .ok next ∧ next.keys = record.keys
      ∧ s'.externalFor next = s.externalFor record := by
  obtain ⟨stage, unblocked⟩ := Session.activeRecord_eq_ok_iff.1 active
  have own : ∀ {found : Record}, s.activeRecord = .ok found → found = record :=
    fun other => Except.ok.inj (other.symm.trans active)
  cases moved with
  | begun empty => cases stage.symm.trans empty
  | begunRecovery empty => cases stage.symm.trans empty
  | established begun => cases stage.symm.trans begun
  | committed established => cases stage.symm.trans established
  | removed activated => cases keeps
  | removedAgain removed => cases stage.symm.trans removed
  | reset => cases keeps
  | signed signs =>
    obtain rfl := own signs.active
    exact ⟨_, Session.activeRecord_eq_ok_iff.2 ⟨rfl, unblocked⟩, rfl, rfl⟩
  | vaultRequested factors signs =>
    obtain rfl := own signs.active
    exact ⟨_, Session.activeRecord_eq_ok_iff.2 ⟨rfl, unblocked⟩, rfl, rfl⟩
  | @recoveryConfirmed code keys factor found counter signature factors isCode signs =>
    obtain rfl := own signs.active
    have differs := Record.rememberCode_differs found counter (Code.digest code)
    have free := differs.unchanged Record.blocked rfl
    have external := differs.unchanged (fun next => s.externalFor next) rfl
    exact ⟨_, Session.activeRecord_eq_ok_iff.2 ⟨rfl, free.trans unblocked⟩,
      differs.unchanged Record.keys rfl, external⟩
  | applied blocked activated seen =>
    cases blocked with
    | true =>
      have kept := of_decide_eq_true keeps
      exact absurd seen kept.1
    | false =>
      obtain rfl := Stage.activated.inj (stage.symm.trans activated)
      exact ⟨_, Session.activeRecord_eq_ok_iff.2 ⟨rfl, rfl⟩, rfl, rfl⟩
  | removedOnServer activated seen =>
    have kept := of_decide_eq_true keeps
    exact absurd seen kept.2
  | upgraded active' old moved =>
    obtain rfl := own active'
    exact ⟨_, Session.activeRecord_eq_ok_iff.2 ⟨rfl, unblocked⟩, rfl, rfl⟩
  | restored decoded => cases keeps
  | passwordChanged => cases keeps
  | biometryRemoved => cases keeps
  | biometryAdded => cases keeps
  | observed observes => exact ⟨record, active, rfl, rfl⟩

/-- A new password opens what the old one opened. -/
theorem Session.matches_of_changePassword {old new : Password} (keys : UnlockKeys)
    (known : ∀ password, keys.password = some password → password = old)
    (active : s.activeRecord = .ok record)
    (ran : (Operation.changePassword old new).run.Gives s a reply s' a') :
    ∃ next, s'.activeRecord = .ok next
      ∧ s.Matches record keys s' next { keys with password := keys.password.map fun _ => new } := by
  cases Transition.of_gives ran with
  | @passwordChanged _ _ found external oldLock key lock salt stored _ _ active' long outside oldLocked
      opened locked kept =>
    obtain rfl := Except.ok.inj (active'.symm.trans active)
    have unblocked := (activeRecord_eq_ok_iff.1 active).2
    refine ⟨_, activeRecord_eq_ok_iff.2 ⟨rfl, unblocked⟩, rfl, rfl, rfl, rfl, rfl, ?_⟩
    cases given : keys.password with
    | none => exact True.intro
    | some password =>
      obtain rfl := known password given
      intro external' same
      obtain rfl := Except.ok.inj (outside.symm.trans same)
      have before : (unlockKnowledge found external password).Returns key :=
        fun _ => gives_unlockKnowledge.2 ⟨⟨oldLock, oldLocked, opened⟩, rfl⟩
      exact relates_of_returns before
        (fun _ => gives_unlockKnowledge.2 ⟨⟨lock, locked, StoredKey.opens_protected kept⟩, rfl⟩) rfl
  | observed observes => cases observes

/-- What was stored of an activation in use is in use where it is restored. -/
theorem Session.activeRecord_of_restore {t' : Session} (fits : s.stored.Fits)
    (active : s.activeRecord = .ok record)
    (ran : (Operation.deserialize s.serialize).run.Gives t a reply t' a') :
    t'.activeRecord = .ok record ∧ t'.externalFor record = t.externalFor record := by
  obtain ⟨stage, unblocked⟩ := activeRecord_eq_ok_iff.1 active
  have settled : s.stage.settled = true := by
    rw [stage]
    rfl
  obtain ⟨_, restored, -⟩ := Change.gives_map.1 ran
  obtain rfl := eq_of_gives_deserialize settled fits restored
  exact ⟨activeRecord_eq_ok_iff.2 ⟨stage, unblocked⟩, rfl⟩

/-! ## From one signature to another -/

/-- What may happen to an activation in use while it stays in use: it leads from a session and some
unlock keys to the session and the unlock keys of a later moment. -/
inductive Session.Continues (first : Session) (initial : UnlockKeys) : Session → UnlockKeys → Prop
  | start : Continues first initial first initial
  | used {s s' : Session} {keys : UnlockKeys} {op : Operation} {reply : Reply} {a a' : Ambient}
      (before : Continues first initial s keys) (keeps : op.keepsUse = true)
      (ran : op.run.Gives s a reply s' a') : Continues first initial s' keys
  | failed {s s' : Session} {keys : UnlockKeys} {op : Operation} {a a' : Ambient} {e : Failure}
      (before : Continues first initial s keys) (ran : op.run.result s a = ((.error e, s'), a')) :
    Continues first initial s' keys
  | changedPassword {s s' : Session} {keys : UnlockKeys} {old new : Password} {reply : Reply}
      {a a' : Ambient} (before : Continues first initial s keys)
      (known : ∀ password, keys.password = some password → password = old)
      (ran : (Operation.changePassword old new).run.Gives s a reply s' a') :
    Continues first initial s' { keys with password := keys.password.map fun _ => new }
  | restored {s t t' : Session} {keys : UnlockKeys} {reply : Reply} {a a' : Ambient}
      (before : Continues first initial s keys) (fits : s.stored.Fits)
      (external : ∀ record, s.stage = .activated record → t.externalFor record = s.externalFor record)
      (ran : (Operation.deserialize s.serialize).run.Gives t a reply t' a') :
    Continues first initial t' keys

/-- **An activation in use stays in use, and unlocks as it did.** -/
theorem Session.Continues.unlocks {first : Session} {initial : UnlockKeys} {origin : Record}
    (h : first.Continues initial s keys) (active : first.activeRecord = .ok origin) :
    ∃ record, s.activeRecord = .ok record ∧ ∀ factor, Relates Eq
      (first.unlockSignatureKeys origin initial factor) (s.unlockSignatureKeys record keys factor) := by
  induction h with
  | start =>
    exact ⟨origin, active, (Session.matches_of_keys rfl rfl initial).relates⟩
  | @used s s' keys op reply a a' _ keeps ran ih =>
    obtain ⟨record, held, unlocking⟩ := ih
    obtain ⟨next, held', stored, external⟩ := (Transition.of_gives ran).stays_in_use keeps held
    exact ⟨next, held', fun factor =>
      (unlocking factor).trans ((matches_of_keys external stored keys).relates factor)⟩
  | failed _ ran ih =>
    rw [Operation.session_eq_of_error ran]
    exact ih
  | changedPassword _ known ran ih =>
    obtain ⟨record, held, unlocking⟩ := ih
    obtain ⟨next, held', same⟩ := matches_of_changePassword _ known held ran
    exact ⟨next, held', fun factor => (unlocking factor).trans (same.relates factor)⟩
  | restored _ fits external ran ih =>
    obtain ⟨record, held, unlocking⟩ := ih
    obtain ⟨held', outside⟩ := activeRecord_of_restore fits held ran
    have same := outside.trans (external record (activeRecord_eq_ok_iff.1 held).1)
    exact ⟨record, held', fun factor =>
      (unlocking factor).trans ((matches_of_keys same rfl _).relates factor)⟩

/-- **An offline signature depends on the request and on the keys, and on nothing else.** Two sessions
whose unlock keys reach the same factor keys sign a request alike, offline: their setups, counters,
locks, external keys and surroundings may be any. So whatever an activation goes through as long as it
stays in use, signatures and an upgrade among it, its offline signature of a request is the one it was,
with the new password if the password was changed, and in another session if it was restored there. What
fails before fails after, with the same failure. -/
theorem Session.offline_of_keys :
    (∀ (s t : Session) (record record' : Record) (keys keys' : UnlockKeys) (factor : SignatureFactor)
        (found : List SymmetricKey), s.activeRecord = .ok record → t.activeRecord = .ok record' →
      (s.unlockSignatureKeys record keys factor).Returns found →
      (t.unlockSignatureKeys record' keys' factor).Returns found →
      ∀ (request : Request) (a b : Ambient), ((s.signOffline request keys factor).result a).1
        = ((t.signOffline request keys' factor).result b).1)
    ∧ ∀ (first s : Session) (initial keys : UnlockKeys) (origin : Record),
      first.activeRecord = .ok origin → first.Continues initial s keys →
      ∀ (request : Request) (factor : SignatureFactor) (a b : Ambient),
        ((first.signOffline request initial factor).result a).1
          = ((s.signOffline request keys factor).result b).1 := by
  constructor
  · intro s t record record' keys keys' factor found active active' reached reached' request
    exact relates_eq_iff.1 (relates_signOffline active active' (relates_of_returns reached reached' rfl))
  · intro first s initial keys origin active onward request factor
    obtain ⟨record, active', unlocking⟩ := onward.unlocks active
    exact relates_eq_iff.1 (relates_signOffline active active' (unlocking factor))

/-- The record of an activation with a knowledge key. -/
def Record.knowing (counter : Counter) (knowledge : StoredKey) (salt : Octets 16) : Record where
  activationId := "activation"
  serverKey := KeyPair.unit.publicKey.bytes
  deviceKey := KeyPair.unit.publicKey.bytes
  devicePrivate := []
  keys := ⟨.enclosed .ones .ones none .zero .zero, knowledge, none, ⟨[]⟩, salt.bytes⟩
  counter := counter
  usesExternal := false
  blocked := false
  boundCode := none
  confirmedCodes := []

/-- A session with such an activation. -/
def Session.knowing (counter : Counter) (knowledge : StoredKey) (salt : Octets 16) : Session :=
  (counting 0).at (.activated (.knowing counter knowledge salt))

section

variable {counter : Counter} {knowledge : StoredKey} {salt : Octets 16}

theorem Session.fits_knowing (short : knowledge.bytes.length ≤ 144) :
    (knowing counter knowledge salt).stored.Fits := by
  have base : Record.Fits _ := fits_counting 0
  have knowledge : knowledge.bytes.length < 2 ^ 64 := Nat.lt_of_le_of_lt short (by decide)
  exact { base with keys := { base.keys with knowledge, salt := salt.fits_bytes } }

/-- The device alone unlocks it, and the device with the password. -/
theorem Session.unlocks_knowing {password : Password} {lock : SymmetricKey}
    (locked : Kdf.passwordLock password.bytes salt.bytes = .ok lock)
    (opens : knowledge.Opens lock none .ones) :
    let keys : UnlockKeys := ⟨some SymmetricKey.ones.bytes, none, some password⟩
    let s := knowing counter knowledge salt
    s.Unlocks (.knowing counter knowledge salt) keys .possession [.ones]
      ∧ s.Unlocks (.knowing counter knowledge salt) keys .possessionKnowledge [.ones, .ones] := by
  have possession := StoredKey.opens_enclosed .ones .ones none .zero .zero
  constructor
  · exact ⟨rfl, .ones, none, .ones, [], [], rfl, rfl, possession, rfl, rfl, rfl⟩
  · exact ⟨rfl, .ones, none, .ones, [.ones], [], rfl, rfl, possession,
      ⟨_, lock, .ones, rfl, locked, opens, rfl⟩, rfl, rfl⟩

end

/-- A version 2 activation with one number left signs an online request, is upgraded, has its password
changed and is restored in another session. It signs offline as it did before all that, and with the
possession key as another activation with that key does. -/
theorem Session.offline_of_long_use :
    let a : Ambient := ⟨⟨[], 7⟩, 0, []⟩
    let request : Request := ⟨"POST", "/payment", [], some "AAAAAAAAAAAAAAAAAAAAAA=="⟩
    let device : UnlockKeys := { possession := some SymmetricKey.ones.bytes }
    let keys : UnlockKeys := { device with password := some ⟨[1, 2, 3, 4]⟩ }
    let keys' : UnlockKeys := { device with password := some ⟨[5, 6, 7, 8]⟩ }
    ∃ (first last : Session) (origin record : Record) (value : String),
      first.activeRecord = .ok origin ∧ origin.counter = .linear (UInt64.ofNat (UInt64.size - 2))
      ∧ first.Continues keys last keys'
      ∧ last.activeRecord = .ok record ∧ record.version = .v3
      ∧ (first.signOffline request keys .possessionKnowledge).Gives a value a
      ∧ ((last.signOffline request keys' .possessionKnowledge).result a).1 = .ok value
      ∧ ((last.signOffline request keys' .possession).result a).1
        = (((counting 5).signOffline request device .possession).result a).1 := by
  intro a request device keys keys'
  obtain ⟨alike, onward⟩ := offline_of_keys
  let old : Password := ⟨[1, 2, 3, 4]⟩
  let new : Password := ⟨[5, 6, 7, 8]⟩
  obtain ⟨lock, locked⟩ : ∃ lock, Kdf.passwordLock old.bytes (Octets.zero : Octets 16).bytes = .ok lock :=
    ⟨_, if_neg (by decide)⟩
  let stored : StoredKey := .enclosed .ones lock none .zero .zero
  have opens : stored.Opens lock none .ones := StoredKey.opens_enclosed .ones lock none .zero .zero
  let numbered (value : Nat) : Session := knowing (.linear (UInt64.ofNat value)) stored .zero
  let first := numbered (UInt64.size - 2)
  let origin := Record.knowing (.linear (UInt64.ofNat (UInt64.size - 2))) stored .zero
  have active : first.activeRecord = .ok origin := rfl
  obtain ⟨one, both⟩ := unlocks_knowing locked opens
  -- The last number but one is used up.
  have next : origin.counter.next = .ok (.linear (UInt64.ofNat (UInt64.size - 1))) := rfl
  have valid : Request.validate ⟨"POST", "/payment", [], none⟩ = .ok () := rfl
  obtain ⟨signature, _, signed⟩ := exists_gives_sign active next valid rfl one a
  have signing : (Operation.sign ⟨"POST", "/payment", [], none⟩ keys .possession).run.Gives first a _
      (numbered (UInt64.size - 1)) _ := Change.gives_map.2 ⟨signature, signed, rfl⟩
  have spent := Continues.used (.start : first.Continues keys first keys) rfl signing
  -- The upgrade.
  obtain ⟨octets, yields⟩ :=
    UpgradeData.exists_yields_iff.2 (.inl rfl : (UpgradeData.mk none).counterData = none ∨ _)
  obtain ⟨_, upgraded⟩ := exists_gives_upgrade (s := numbered (UInt64.size - 1)) rfl rfl yields a
  have upgrading : (Operation.upgrade ⟨none⟩).run.Gives (numbered (UInt64.size - 1)) a _
      (knowing (.hashed octets) stored .zero) _ := Change.gives_map.2 ⟨(), upgraded, rfl⟩
  have moved := spent.used rfl upgrading
  -- The new password.
  have acceptable : new.isAcceptable = true := rfl
  obtain ⟨renewed, salt, length, _, changed⟩ := exists_gives_changePassword
    (s := knowing (.hashed octets) stored .zero) rfl acceptable rfl locked opens a
  have changing : (Operation.changePassword old new).run.Gives _ a _
      (knowing (.hashed octets) renewed salt) _ := Change.gives_map.2 ⟨(), changed, rfl⟩
  have known : ∀ password, keys.password = some password → password = old :=
    fun _ given => (Option.some.inj given).symm
  have kept := moved.changedPassword known changing
  -- The other session.
  have fits : (knowing (.hashed octets) renewed salt).stored.Fits := fits_knowing length
  obtain ⟨_, restored⟩ := gives_deserialize (Stored.decode_encode fits) ((counting 0).at .empty) a
  have restoring : (Operation.deserialize _).run.Gives _ a _ _ _ :=
    Change.gives_map.2 ⟨(), restored, rfl⟩
  have course : first.Continues keys _ keys' :=
    kept.restored fits (fun _ stage => by cases stage; rfl) restoring
  -- The signatures.
  have nonce : Text.Base64.decodeOctets 16 "AAAAAAAAAAAAAAAAAAAAAA==" = .ok Octets.zero := by
    decide +kernel
  obtain ⟨value, computed⟩ := Signature.exists_computeOffline both.length .zero
    (Bytes.ofText (request.offlineText "AAAAAAAAAAAAAAAAAAAAAA=="))
  have made : (first.signOffline request keys .possessionKnowledge).Gives a value a :=
    gives_signOffline.2 ⟨⟨origin, _, _, _, active, rfl, rfl, nonce, both, computed⟩, rfl⟩
  have still := onward first _ keys keys' origin active course request
  obtain ⟨base, base_active, -, base_unlocks⟩ := unlocks_counting 5
  have same := alike first (counting 5) origin base keys device .possession _ active base_active
    one.returns base_unlocks.returns request a a
  refine ⟨first, _, origin, _, value, active, rfl, course, rfl, rfl, made, ?_, ?_⟩
  · rw [← still .possessionKnowledge a a]
    exact congrArg Prod.fst made
  · rw [← still .possession a a]
    exact same

end DeviceAuth
