import DeviceAuth.Proofs.Effects
import DeviceAuth.Session.Activation
import DeviceAuth.Vault

/-!
# What an application can do to a session

A property of a session that is worth having holds whatever an application calls, in whatever order
and with whatever arguments. `Operation` lists what can be called, vaults included as far as they
need a session, and `Operation.run` performs it. A history is what a list of calls makes of a
session, call after call; every call meets surroundings of its own, so a statement about all
histories leaves the random octets, the time and the log open between any two calls.
-/

set_option autoImplicit false

namespace DeviceAuth

/-! ## Operations -/

/-- Something an application calls on a session. -/
inductive Operation where
  | begin (code : Option ActivationCode)
  | beginRecovery (code puk : String)
  | establish (answer : ActivationAnswer)
  | commit (keys : UnlockKeys)
  | remove
  | reset
  | sign (request : Request) (keys : UnlockKeys) (factor : SignatureFactor)
  | requestVault (request : Request) (keys : UnlockKeys) (factor : SignatureFactor)
  | confirmRecovery (code : String) (keys : UnlockKeys) (factor : SignatureFactor)
  | applyStatus (status : Status)
  | upgrade (data : UpgradeData)
  | deserialize (bytes : Bytes)
  | changePassword (old new : Password)
  | removeBiometry
  | addBiometry (vault : Vault) (keys : UnlockKeys)
  | serialize
  | signOffline (request : Request) (keys : UnlockKeys) (factor : SignatureFactor)
  | decodeStatus (encrypted : EncryptedStatus) (keys : UnlockKeys)
  | unlockVault (authorization : VaultAuthorization) (keys : UnlockKeys) (encryptedKey : String)
  | deriveOnce (authorization : VaultAuthorization) (keys : UnlockKeys) (encryptedKey : String)
      (index : UInt64)
  | verifySigned (signed : SignedData)
  | encryptor (scope : Scope) (keys : UnlockKeys) (info1 : Bytes)

/-- What an operation answers. -/
inductive Reply where
  | done
  | request (request : ActivationRequest)
  | outcome (outcome : ActivationOutcome)
  | signature (signature : RequestSignature)
  | authorization (authorization : VaultAuthorization)
  | confirmation (confirmation : RecoveryConfirmation)
  | stored (bytes : Bytes)
  | offlineSignature (value : String)
  | status (status : Status)
  | vault (vault : Vault)
  | key (key : SymmetricKey)
  | encryptor (encryptor : Encryptor)

/-- Ask a session without changing it. -/
def Session.ask {α : Type} (question : Session → Core α) : Change Session α := do
  question (← Change.object)

/-- Perform an operation. -/
def Operation.run : Operation → Change Session Reply
  | begin code => .request <$> Session.begin code
  | beginRecovery code puk => .request <$> Session.beginRecovery code puk
  | establish answer => .outcome <$> Session.establish answer
  | commit keys => (fun _ => .done) <$> Session.commit keys
  | remove => (fun _ => .done) <$> Session.remove
  | reset => (fun _ => .done) <$> Session.reset
  | sign request keys factor => .signature <$> Session.sign request keys factor
  | requestVault request keys factor => .authorization <$> Session.requestVault request keys factor
  | confirmRecovery code keys factor => .confirmation <$> Session.confirmRecovery code keys factor
  | applyStatus status => (fun _ => .done) <$> Session.applyStatus status
  | upgrade data => (fun _ => .done) <$> Session.upgrade data
  | deserialize bytes => (fun _ => .done) <$> Session.deserialize bytes
  | changePassword old new => (fun _ => .done) <$> Session.changePassword old new
  | removeBiometry => (fun _ => .done) <$> Session.removeBiometry
  | addBiometry vault keys => (fun _ => .done) <$> vault.addBiometry keys
  | serialize => .stored <$> Session.ask fun s => pure s.serialize
  | signOffline request keys factor =>
    .offlineSignature <$> Session.ask fun s => s.signOffline request keys factor
  | decodeStatus encrypted keys => .status <$> Session.ask fun s => s.decodeStatus encrypted keys
  | unlockVault authorization keys encryptedKey =>
    .vault <$> Session.ask fun s => Vault.unlock s authorization keys encryptedKey
  | deriveOnce authorization keys encryptedKey index =>
    .key <$> Session.ask fun s => Vault.deriveOnce s authorization keys encryptedKey index
  | verifySigned signed => (fun _ => .done) <$> Session.ask fun s => s.verifySigned signed
  | encryptor scope keys info1 => .encryptor <$> Session.ask fun s => s.encryptor scope keys info1

/-- The request an operation asks to have signed online, and what it is to be signed with. A recovery
code is confirmed by a request of its own. -/
def Operation.asks : Operation → Option (Request × UnlockKeys × SignatureFactor)
  | sign request keys factor => some (request, keys, factor)
  | requestVault request keys factor => some (request, keys, factor)
  | confirmRecovery code keys factor =>
    let body := Bytes.ofText (Recovery.bodyText (Code.unmarked code))
    some (⟨"POST", Recovery.confirmUri, body, none⟩, keys, factor)
  | _ => none

/-- Whether an operation only looks at the session. -/
def Operation.observes : Operation → Bool
  | serialize => true
  | signOffline _ _ _ => true
  | decodeStatus _ _ => true
  | unlockVault _ _ _ => true
  | deriveOnce _ _ _ _ => true
  | verifySigned _ => true
  | encryptor _ _ _ => true
  | _ => false

/-- Whether an operation drops whatever activation there is, pending or not, for another state. -/
def Operation.discards : Operation → Bool
  | reset => true
  | deserialize _ => true
  | _ => false

theorem Operation.asks_of_observes {op : Operation} (h : op.observes = true) : op.asks = none := by
  cases op with
  | sign => cases h
  | requestVault => cases h
  | confirmRecovery => cases h
  | _ => rfl

/-- The online signature in an answer. -/
def Reply.signature? : Reply → Option RequestSignature
  | .signature made => some made
  | .authorization made => some made.signature
  | .confirmation made => some made.signature
  | _ => none

/-! ## Histories -/

/-- An operation and what surrounds the core when it is called. -/
structure Call where
  operation : Operation
  ambient : Ambient

/-- A call that has ended. -/
structure Turn where
  before : Session
  operation : Operation
  result : Except Failure Reply
  after : Session

/-- Make a call. -/
def Call.turn (call : Call) (s : Session) : Turn :=
  let ended := (call.operation.run.result s call.ambient).1
  ⟨s, call.operation, ended.1, ended.2⟩

namespace Session

/-- The turns of some calls, one after the other. -/
def history : Session → List Call → List Turn
  | _, [] => []
  | s, call :: calls => call.turn s :: history (call.turn s).after calls

/-- What some calls make of a session. -/
def after : Session → List Call → Session
  | s, [] => s
  | s, call :: calls => after (call.turn s).after calls

end Session

/-- Whether a call asked for an online signature and ended well. -/
def Turn.signed (turn : Turn) : Bool := turn.operation.asks.isSome && turn.result.isOk

theorem Session.after_append (s : Session) (calls more : List Call) :
    s.after (calls ++ more) = (s.after calls).after more := by
  induction calls generalizing s with
  | nil => rfl
  | cons call calls ih => exact ih (call.turn s).after

/-- A place in a history is reached by the calls before it. -/
theorem Session.exists_of_history_eq {s : Session} {calls : List Call} {earlier later : List Turn}
    {turn : Turn} (h : s.history calls = earlier ++ turn :: later) :
    ∃ before call rest, calls = before ++ call :: rest ∧ s.history before = earlier
      ∧ turn = call.turn (s.after before) := by
  induction calls generalizing s earlier with
  | nil =>
    rw [history] at h
    exact absurd h (by simp)
  | cons call calls ih =>
    rw [history] at h
    cases earlier with
    | nil =>
      obtain ⟨rfl, -⟩ := List.cons.inj h
      exact ⟨[], call, calls, rfl, rfl, rfl⟩
    | cons first earlier =>
      obtain ⟨rfl, tail⟩ := List.cons.inj h
      obtain ⟨before, at_, rest, rfl, rfl, rfl⟩ := ih tail
      exact ⟨call :: before, at_, rest, rfl, rfl, rfl⟩

/-- A call that ended well gave what it answers. -/
theorem Call.gives_of_result {call : Call} {s : Session} {reply : Reply}
    (h : (call.turn s).result = .ok reply) :
    ∃ a', call.operation.run.Gives s call.ambient reply (call.turn s).after a' :=
  ⟨(call.operation.run.result s call.ambient).2, Prod.ext (Prod.ext h rfl) rfl⟩

theorem Call.result_of_gives {op : Operation} {a a' : Ambient} {s s' : Session} {reply : Reply}
    (h : op.run.Gives s a reply s' a') : (Call.turn ⟨op, a⟩ s).result = .ok reply :=
  congrArg (fun ended => ended.1.1) h

theorem Call.after_of_gives {op : Operation} {a a' : Ambient} {s s' : Session} {reply : Reply}
    (h : op.run.Gives s a reply s' a') : (Call.turn ⟨op, a⟩ s).after = s' :=
  congrArg (fun ended => ended.1.2) h

theorem Session.after_cons_of_gives {op : Operation} {a a' : Ambient} {s s' : Session} {reply : Reply}
    (h : op.run.Gives s a reply s' a') (calls : List Call) : s.after (⟨op, a⟩ :: calls) = s'.after calls := by
  rw [after, Call.after_of_gives h]

theorem Call.failed_of_result {call : Call} {s : Session} {e : Failure}
    (h : (call.turn s).result = .error e) :
    ∃ a', call.operation.run.result s call.ambient = ((.error e, (call.turn s).after), a') :=
  ⟨(call.operation.run.result s call.ambient).2, Prod.ext (Prod.ext h rfl) rfl⟩

end DeviceAuth
