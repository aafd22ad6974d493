import DeviceAuth.Proofs.Envelope.Sealing

/-!
# A channel of sealed messages

A device's encryptor and a server's decryptor work on their own. What reaches either side may be a
message of the other, an old one, or one that somebody made up, and the shared informations may be
replaced on either side at any time. Nothing is known about the order of all this.

Each side has the keys of one request: the encryptor of the last one it sealed, the decryptor of the
last one it opened. `Channel.Tracks` says just that, and with which first information. It is what every
call preserves; all that a run guarantees (`Channel.exchange`) is read off it.
-/

set_option autoImplicit false

namespace DeviceAuth

open Envelope

/-- A device's encryptor and a server's decryptor. -/
structure Channel where
  encryptor : Encryptor
  decryptor : Decryptor

namespace Channel

/-! ## Runs -/

/-- Something called on one of the two sides. -/
inductive Action where
  | encryptRequest (plaintext : Bytes)
  | decryptRequest (c : Cryptogram)
  | encryptResponse (plaintext : Bytes)
  | decryptResponse (c : Cryptogram)
  | encryptorInfo1 (info : Bytes)
  | encryptorInfo2 (info : Bytes)
  | decryptorInfo1 (info : Bytes)
  | decryptorInfo2 (info : Bytes)

inductive Reply where
  | done
  | sealed (c : Cryptogram)
  | opened (plaintext : Bytes)

def Action.run (ch : Channel) (a : Ambient) : Action → Except Failure Reply × Channel
  | encryptRequest plaintext =>
    let ended := ((Encryptor.encryptRequest plaintext).result ch.encryptor a).1
    (ended.1.map .sealed, { ch with encryptor := ended.2 })
  | decryptRequest c =>
    let ended := ((Decryptor.decryptRequest c).result ch.decryptor a).1
    (ended.1.map .opened, { ch with decryptor := ended.2 })
  | encryptResponse plaintext =>
    (((ch.decryptor.encryptResponse plaintext).result a).1.map .sealed, ch)
  | decryptResponse c => (((ch.encryptor.decryptResponse c).result a).1.map .opened, ch)
  | encryptorInfo1 info => (.ok .done, { ch with encryptor := ch.encryptor.withInfo1 info })
  | encryptorInfo2 info => (.ok .done, { ch with encryptor := ch.encryptor.withInfo2 info })
  | decryptorInfo1 info => (.ok .done, { ch with decryptor := ch.decryptor.withInfo1 info })
  | decryptorInfo2 info => (.ok .done, { ch with decryptor := ch.decryptor.withInfo2 info })

structure Call where
  action : Action
  ambient : Ambient

structure Turn where
  before : Channel
  action : Action
  result : Except Failure Reply
  after : Channel

def Call.turn (call : Call) (ch : Channel) : Turn :=
  let ended := call.action.run ch call.ambient
  ⟨ch, call.action, ended.1, ended.2⟩

def history : Channel → List Call → List Turn
  | _, [] => []
  | ch, call :: calls => call.turn ch :: history (call.turn ch).after calls

def after : Channel → List Call → Channel
  | ch, [] => ch
  | ch, call :: calls => after (call.turn ch).after calls

/-- A turn is one of those that some calls make, and `earlier` are the turns before it. -/
def Occurs (start : Channel) (calls : List Call) (earlier : List Turn) (turn : Turn) : Prop :=
  ∃ before call rest, calls = before ++ call :: rest
    ∧ earlier = start.history before ∧ turn = call.turn (start.after before)

/-- The request a turn has sealed, with the first information at that time. -/
def Turn.sealing? (turn : Turn) : Option (Cryptogram × Bytes) :=
  match turn.action, turn.result with
  | .encryptRequest _, .ok (.sealed c) => some (c, turn.before.encryptor.info1)
  | _, _ => none

/-- The request a turn has opened, with the first information at that time. -/
def Turn.opening? (turn : Turn) : Option (Cryptogram × Bytes) :=
  match turn.action, turn.result with
  | .decryptRequest c, .ok (.opened _) => some (c, turn.before.decryptor.info1)
  | _, _ => none

theorem Turn.sealing?_eq_some {turn : Turn} {plaintext : Bytes} {c : Cryptogram}
    (asked : turn.action = .encryptRequest plaintext) (made : turn.result = .ok (.sealed c)) :
    turn.sealing? = some (c, turn.before.encryptor.info1) := by
  unfold sealing?
  rw [asked, made]

theorem Turn.opening?_eq_some {turn : Turn} {plaintext : Bytes} {c : Cryptogram}
    (got : turn.action = .decryptRequest c) (read : turn.result = .ok (.opened plaintext)) :
    turn.opening? = some (c, turn.before.decryptor.info1) := by
  unfold opening?
  rw [got, read]

/-- The last request that was sealed in some turns. -/
def lastSealed (turns : List Turn) : Option (Cryptogram × Bytes) :=
  (turns.filterMap Turn.sealing?).getLast?

/-- The last request that was opened in some turns. -/
def lastOpened (turns : List Turn) : Option (Cryptogram × Bytes) :=
  (turns.filterMap Turn.opening?).getLast?

theorem after_concat (ch : Channel) (calls : List Call) (call : Call) :
    ch.after (calls ++ [call]) = (call.turn (ch.after calls)).after := by
  induction calls generalizing ch with
  | nil => rfl
  | cons first calls ih => exact ih (first.turn ch).after

theorem history_concat (ch : Channel) (calls : List Call) (call : Call) :
    ch.history (calls ++ [call]) = ch.history calls ++ [call.turn (ch.after calls)] := by
  induction calls generalizing ch with
  | nil => rfl
  | cons first calls ih => exact congrArg (first.turn ch :: ·) (ih (first.turn ch).after)

theorem getLast?_filterMap_concat {α β : Type} (f : α → Option β) (xs : List α) (x : α) :
    ((xs ++ [x]).filterMap f).getLast? = (f x).or (xs.filterMap f).getLast? := by
  rw [List.filterMap_append, List.getLast?_append]
  cases found : f x with
  | none => simp [found]
  | some y => simp [found]

theorem lastSealed_concat (turns : List Turn) (turn : Turn) :
    lastSealed (turns ++ [turn]) = turn.sealing?.or (lastSealed turns) :=
  getLast?_filterMap_concat _ _ _

theorem lastOpened_concat (turns : List Turn) (turn : Turn) :
    lastOpened (turns ++ [turn]) = turn.opening?.or (lastOpened turns) :=
  getLast?_filterMap_concat _ _ _

/-! ## One call -/

variable {server : KeyPair} {ch ch' : Channel} {action : Action} {result : Except Failure Reply}
  {sent received : Option (Cryptogram × Bytes)}

theorem turn_encryptRequest {plaintext : Bytes} {a a' : Ambient} {made : Except Failure Cryptogram}
    {e' : Encryptor}
    (ended : (Encryptor.encryptRequest plaintext).result ch.encryptor a = ((made, e'), a')) :
    Call.turn ⟨.encryptRequest plaintext, a⟩ ch
      = ⟨ch, .encryptRequest plaintext, made.map .sealed, { ch with encryptor := e' }⟩ := by
  unfold Call.turn Action.run
  dsimp only
  rw [ended]

theorem turn_decryptRequest {c : Cryptogram} {a a' : Ambient} {read : Except Failure Bytes}
    {d' : Decryptor}
    (ended : (Decryptor.decryptRequest c).result ch.decryptor a = ((read, d'), a')) :
    Call.turn ⟨.decryptRequest c, a⟩ ch
      = ⟨ch, .decryptRequest c, read.map .opened, { ch with decryptor := d' }⟩ := by
  unfold Call.turn Action.run
  dsimp only
  rw [ended]

theorem turn_encryptResponse {plaintext : Bytes} {a a' : Ambient} {made : Except Failure Cryptogram}
    (ended : (ch.decryptor.encryptResponse plaintext).result a = (made, a')) :
    Call.turn ⟨.encryptResponse plaintext, a⟩ ch
      = ⟨ch, .encryptResponse plaintext, made.map .sealed, ch⟩ := by
  unfold Call.turn Action.run
  dsimp only
  rw [ended]

theorem turn_decryptResponse {c : Cryptogram} {a a' : Ambient} {read : Except Failure Bytes}
    (ended : (ch.encryptor.decryptResponse c).result a = (read, a')) :
    Call.turn ⟨.decryptResponse c, a⟩ ch = ⟨ch, .decryptResponse c, read.map .opened, ch⟩ := by
  unfold Call.turn Action.run
  dsimp only
  rw [ended]

/-- What a call does on a channel to the server with this key pair. -/
inductive Step (server : KeyPair) (ch : Channel) : Action → Except Failure Reply → Channel → Prop
  | requestSealed {plaintext : Bytes} {c : Cryptogram} {k : SealingKeys} {iv : Octets 16}
      (found : requestKeys server ch.encryptor.info1 c = some k)
      (closed : c = sealed k c.key iv ch.encryptor.info2 plaintext) :
    Step server ch (.encryptRequest plaintext) (.ok (.sealed c))
      { ch with encryptor := { ch.encryptor with keys := some k } }
  | requestOpened {plaintext : Bytes} {c : Cryptogram} {k : SealingKeys}
      (found : requestKeys server ch.decryptor.info1 c = some k) :
    Step server ch (.decryptRequest c) (.ok (.opened plaintext))
      { ch with decryptor := { ch.decryptor with keys := some k } }
  | responseSealed {plaintext : Bytes} {k : SealingKeys} {iv : Octets 16}
      (known : ch.decryptor.keys = some k) :
    Step server ch (.encryptResponse plaintext)
      (.ok (.sealed (sealed k none iv ch.decryptor.info2 plaintext))) ch
  | responseOpened {plaintext : Bytes} {c : Cryptogram} :
    Step server ch (.decryptResponse c) (.ok (.opened plaintext)) ch
  | encryptorInfo1 {info : Bytes} :
    Step server ch (.encryptorInfo1 info) (.ok .done)
      { ch with encryptor := ch.encryptor.withInfo1 info }
  | encryptorInfo2 {info : Bytes} :
    Step server ch (.encryptorInfo2 info) (.ok .done)
      { ch with encryptor := ch.encryptor.withInfo2 info }
  | decryptorInfo1 {info : Bytes} :
    Step server ch (.decryptorInfo1 info) (.ok .done)
      { ch with decryptor := ch.decryptor.withInfo1 info }
  | decryptorInfo2 {info : Bytes} :
    Step server ch (.decryptorInfo2 info) (.ok .done)
      { ch with decryptor := ch.decryptor.withInfo2 info }
  | failed {action : Action} {e : Failure} : Step server ch action (.error e) ch

/-- These are the keys the server has for a request under some first information, if there is one. -/
def AreKeysOf (server : KeyPair) (keys : Option SealingKeys) : Option (Cryptogram × Bytes) → Prop
  | none => keys = none
  | some (c, info1) => ∃ k, requestKeys server info1 c = some k ∧ keys = some k

/-- Each side has the keys of one request: of `sent` and of `received`, if there are such. -/
structure Tracks (ch : Channel) (server : KeyPair) (sent received : Option (Cryptogram × Bytes)) :
    Prop where
  publicKey : PublicKey.ofBytes ch.encryptor.publicKey = .ok server.publicKey
  pair : ch.decryptor.pair = server
  encryptorKeys : AreKeysOf server ch.encryptor.keys sent
  decryptorKeys : AreKeysOf server ch.decryptor.keys received

theorem Tracks.takes (t : ch.Tracks server sent received) (call : Call) :
    Step server ch call.action (call.turn ch).result (call.turn ch).after := by
  obtain ⟨action, a⟩ := call
  cases action with
  | encryptRequest plaintext =>
    obtain ⟨c, e', a', gives⟩ := Encryptor.exists_gives_encryptRequest t.publicKey plaintext a
    obtain ⟨k, iv, found, closed, rfl⟩ := Encryptor.keys_of_encryptRequest t.publicKey gives
    rw [turn_encryptRequest gives]
    exact .requestSealed found closed
  | decryptRequest c =>
    rcases ended : (Decryptor.decryptRequest c).result ch.decryptor a with ⟨⟨e | plaintext, d'⟩, a'⟩
    · obtain rfl := Decryptor.atomic_decryptRequest c _ _ _ _ _ ended
      rw [turn_decryptRequest ended]
      exact .failed
    · obtain ⟨k, found, -, rfl, -⟩ := Decryptor.gives_decryptRequest.1 ended
      rw [turn_decryptRequest ended]
      exact .requestOpened (t.pair ▸ found)
  | encryptResponse plaintext =>
    rcases ended : (ch.decryptor.encryptResponse plaintext).result a with ⟨e | c, a'⟩
    · rw [turn_encryptResponse ended]
      exact .failed
    · obtain ⟨k, known, rfl, -⟩ := Decryptor.gives_encryptResponse.1 ended
      rw [turn_encryptResponse ended]
      exact .responseSealed known
  | decryptResponse c =>
    rcases ended : (ch.encryptor.decryptResponse c).result a with ⟨e | plaintext, a'⟩
    · rw [turn_decryptResponse ended]
      exact .failed
    · rw [turn_decryptResponse ended]
      exact .responseOpened
  | encryptorInfo1 info => exact .encryptorInfo1
  | encryptorInfo2 info => exact .encryptorInfo2
  | decryptorInfo1 info => exact .decryptorInfo1
  | decryptorInfo2 info => exact .decryptorInfo2

theorem Tracks.step (t : ch.Tracks server sent received) (s : Step server ch action result ch') :
    ch'.Tracks server ((Turn.mk ch action result ch').sealing?.or sent)
      ((Turn.mk ch action result ch').opening?.or received) := by
  obtain ⟨publicKey, pair, encryptorKeys, decryptorKeys⟩ := t
  cases s with
  | requestSealed found closed => exact ⟨publicKey, pair, ⟨_, found, rfl⟩, decryptorKeys⟩
  | requestOpened found => exact ⟨publicKey, pair, encryptorKeys, ⟨_, found, rfl⟩⟩
  | failed =>
    -- Whatever failed has sealed and opened nothing.
    cases action <;> exact ⟨publicKey, pair, encryptorKeys, decryptorKeys⟩
  | _ => exact ⟨publicKey, pair, encryptorKeys, decryptorKeys⟩

/-! ## A whole run -/

/-- Nothing has been sealed or opened yet. -/
structure Fresh (ch : Channel) (server : KeyPair) : Prop where
  publicKey : PublicKey.ofBytes ch.encryptor.publicKey = .ok server.publicKey
  pair : ch.decryptor.pair = server
  unsent : ch.encryptor.keys = none
  unreceived : ch.decryptor.keys = none

theorem Fresh.tracks {start : Channel} (fresh : start.Fresh server) (calls : List Call) :
    (start.after calls).Tracks server (lastSealed (start.history calls))
      (lastOpened (start.history calls)) := by
  -- The last call decides which request is the last one, so the run is taken apart at its end.
  induction calls using List.reverseRecOn with
  | nil => exact ⟨fresh.publicKey, fresh.pair, fresh.unsent, fresh.unreceived⟩
  | append_singleton calls call ih =>
    rw [after_concat, history_concat, lastSealed_concat, lastOpened_concat]
    exact ih.step (ih.takes call)

variable {start : Channel} {calls : List Call} {earlier later : List Turn} {turn sealing opening : Turn}
  {plaintext : Bytes} {c : Cryptogram}

theorem Fresh.occurs (fresh : start.Fresh server) (occurs : start.Occurs calls earlier turn) :
    turn.before.Tracks server (lastSealed earlier) (lastOpened earlier)
      ∧ Step server turn.before turn.action turn.result turn.after := by
  obtain ⟨before, call, rest, -, rfl, rfl⟩ := occurs
  have tracks := fresh.tracks before
  exact ⟨tracks, tracks.takes call⟩

theorem Occurs.exists_call (occurs : start.Occurs calls earlier turn) :
    ∃ a, turn = Call.turn ⟨turn.action, a⟩ turn.before := by
  obtain ⟨before, call, rest, -, -, rfl⟩ := occurs
  exact ⟨call.ambient, rfl⟩

theorem Step.of_encryptRequest
    (s : Step server ch (.encryptRequest plaintext) (.ok (.sealed c)) ch') :
    ∃ k iv, requestKeys server ch.encryptor.info1 c = some k
      ∧ c = sealed k c.key iv ch.encryptor.info2 plaintext := by
  cases s with
  | requestSealed found closed => exact ⟨_, _, found, closed⟩

theorem Step.of_encryptResponse
    (s : Step server ch (.encryptResponse plaintext) (.ok (.sealed c)) ch') :
    ∃ k iv, ch.decryptor.keys = some k ∧ c = sealed k none iv ch.decryptor.info2 plaintext := by
  cases s with
  | responseSealed known => exact ⟨_, _, known, rfl⟩

theorem Step.eq_of_error {e : Failure} (s : Step server ch action (.error e) ch') : ch' = ch := by
  cases s with
  | failed => rfl

/-- A request is opened wherever both shared informations are those it was sealed with. -/
theorem Fresh.opens_request (fresh : start.Fresh server) (first : start.Occurs calls earlier sealing)
    (second : start.Occurs calls later opening) (asked : sealing.action = .encryptRequest plaintext)
    (made : sealing.result = .ok (.sealed c)) (got : opening.action = .decryptRequest c)
    (info1 : opening.before.decryptor.info1 = sealing.before.encryptor.info1)
    (info2 : opening.before.decryptor.info2 = sealing.before.encryptor.info2) :
    opening.result = .ok (.opened plaintext) := by
  obtain ⟨-, step⟩ := fresh.occurs first
  rw [asked, made] at step
  obtain ⟨k, iv, found, closed⟩ := step.of_encryptRequest
  obtain ⟨tracks, -⟩ := fresh.occurs second
  obtain ⟨a, turned⟩ := second.exists_call
  have read : contents k (c.key.getD []) opening.before.decryptor.info2 c = .ok plaintext := by
    rw [info2]
    exact contents_of_eq_sealed closed
  rw [← info1, ← tracks.pair] at found
  rw [got, turn_decryptRequest (Decryptor.gives_decryptRequest.2 ⟨k, found, read, rfl, rfl⟩)] at turned
  rw [turned]
  rfl

/-- The keys for a response are those of the request it answers, whatever the first informations are by
then. -/
theorem Fresh.opens_response {request : Cryptogram × Bytes} (fresh : start.Fresh server)
    (first : start.Occurs calls earlier sealing) (second : start.Occurs calls later opening)
    (accepted : lastOpened earlier = some request) (sent : lastSealed later = some request)
    (answered : sealing.action = .encryptResponse plaintext)
    (made : sealing.result = .ok (.sealed c)) (got : opening.action = .decryptResponse c)
    (info2 : opening.before.encryptor.info2 = sealing.before.decryptor.info2) :
    opening.result = .ok (.opened plaintext) := by
  obtain ⟨tracks, step⟩ := fresh.occurs first
  rw [answered, made] at step
  obtain ⟨k, iv, known, rfl⟩ := step.of_encryptResponse
  have opened := tracks.decryptorKeys
  rw [accepted] at opened
  obtain ⟨k', found, known'⟩ := opened
  obtain rfl := Option.some.inj (known.symm.trans known')
  -- Both sides have the keys of one request, so these are the keys the device opens with.
  obtain ⟨tracks', -⟩ := fresh.occurs second
  have asked := tracks'.encryptorKeys
  rw [sent] at asked
  obtain ⟨k', found', held⟩ := asked
  obtain rfl := Option.some.inj (found.symm.trans found')
  obtain ⟨a, turned⟩ := second.exists_call
  have read := contents_sealed k none iv opening.before.encryptor.info2 plaintext
  rw [got, ← info2,
    turn_decryptResponse (Encryptor.gives_decryptResponse.2 ⟨k, held, read, rfl⟩)] at turned
  rw [turned]
  rfl

theorem Fresh.seals_request (fresh : start.Fresh server) (occurs : start.Occurs calls earlier turn)
    (asked : turn.action = .encryptRequest plaintext) : ∃ c, turn.result = .ok (.sealed c) := by
  obtain ⟨tracks, -⟩ := fresh.occurs occurs
  obtain ⟨a, turned⟩ := occurs.exists_call
  obtain ⟨c, _, _, gives⟩ := Encryptor.exists_gives_encryptRequest tracks.publicKey plaintext a
  rw [asked, turn_encryptRequest gives] at turned
  rw [turned]
  exact ⟨c, rfl⟩

theorem Fresh.seals_response {request : Cryptogram × Bytes} (fresh : start.Fresh server)
    (occurs : start.Occurs calls earlier turn) (accepted : lastOpened earlier = some request)
    (asked : turn.action = .encryptResponse plaintext) : ∃ c, turn.result = .ok (.sealed c) := by
  obtain ⟨tracks, -⟩ := fresh.occurs occurs
  have known := tracks.decryptorKeys
  rw [accepted] at known
  obtain ⟨k, -, held⟩ := known
  obtain ⟨a, turned⟩ := occurs.exists_call
  rw [asked, turn_encryptResponse (Decryptor.gives_encryptResponse.2 ⟨k, held, rfl, rfl⟩)] at turned
  rw [turned]
  exact ⟨_, rfl⟩

/-- **A channel under any interleaving.** Whatever is called on the two sides and in whatever order,
from a server's key pair and an encryptor for its public key on: a request is opened wherever the
server holds both informations it was sealed with. As long as the last request the server opened is
the last one the device sealed, under the same first information, both hold the same keys, and a
response is opened wherever the device holds the second information it was sealed with. What fails
changes neither side. Nothing keeps a device from sealing a request, or a server that has opened one
from sealing a response. -/
theorem exchange (fresh : start.Fresh server) (calls : List Call) :
    (∀ earlier later sealing opening plaintext c,
      start.Occurs calls earlier sealing → start.Occurs calls later opening →
      sealing.action = .encryptRequest plaintext → sealing.result = .ok (.sealed c) →
      opening.action = .decryptRequest c →
      opening.before.decryptor.info1 = sealing.before.encryptor.info1 →
      opening.before.decryptor.info2 = sealing.before.encryptor.info2 →
      opening.result = .ok (.opened plaintext))
    ∧ (∀ request, lastSealed (start.history calls) = some request →
      lastOpened (start.history calls) = some request →
      ∃ k, (start.after calls).encryptor.keys = some k ∧ (start.after calls).decryptor.keys = some k)
    ∧ (∀ request earlier later sealing opening plaintext c,
      start.Occurs calls earlier sealing → start.Occurs calls later opening →
      lastOpened earlier = some request → lastSealed later = some request →
      sealing.action = .encryptResponse plaintext → sealing.result = .ok (.sealed c) →
      opening.action = .decryptResponse c →
      opening.before.encryptor.info2 = sealing.before.decryptor.info2 →
      opening.result = .ok (.opened plaintext))
    ∧ (∀ earlier turn e, start.Occurs calls earlier turn → turn.result = .error e →
      turn.after = turn.before)
    ∧ ∀ earlier turn plaintext, start.Occurs calls earlier turn →
      turn.action = .encryptRequest plaintext
        ∨ (turn.action = .encryptResponse plaintext ∧ (lastOpened earlier).isSome = true) →
      ∃ c, turn.result = .ok (.sealed c) := by
  refine ⟨?_, ?_, ?_, ?_, ?_⟩
  · intro earlier later sealing opening plaintext c first second asked made got info1 info2
    exact fresh.opens_request first second asked made got info1 info2
  · intro request sent accepted
    have tracks := fresh.tracks calls
    obtain ⟨k, found, device⟩ := sent ▸ tracks.encryptorKeys
    obtain ⟨k', found', server⟩ := accepted ▸ tracks.decryptorKeys
    obtain rfl := Option.some.inj (found.symm.trans found')
    exact ⟨k, device, server⟩
  · intro request earlier later sealing opening plaintext c first second accepted sent answered made
      got info2
    exact fresh.opens_response first second accepted sent answered made got info2
  · intro earlier turn e occurs failed
    obtain ⟨-, step⟩ := fresh.occurs occurs
    rw [failed] at step
    exact step.eq_of_error
  · rintro earlier turn plaintext occurs (asked | ⟨asked, accepted⟩)
    · exact fresh.seals_request occurs asked
    · obtain ⟨request, accepted⟩ := Option.isSome_iff_exists.1 accepted
      exact fresh.seals_response occurs accepted asked

/-- An empty request and its response. Between the two, the device is given other first information,
and both sides other second information. -/
theorem exchange_of_unit :
    let a : Ambient := ⟨⟨[], 7⟩, 0, []⟩
    let start : Channel := ⟨⟨KeyPair.unit.publicKey.bytes, [1], [2], none⟩, ⟨.unit, [1], [2], none⟩⟩
    start.Fresh .unit ∧ ∃ c r,
      (start.history [⟨.encryptRequest [], a⟩, ⟨.decryptRequest c, a⟩, ⟨.encryptorInfo1 [3], a⟩,
        ⟨.encryptorInfo2 [5], a⟩, ⟨.decryptorInfo2 [5], a⟩, ⟨.encryptResponse [7], a⟩,
        ⟨.decryptResponse r, a⟩]).map Turn.result
      = [.ok (.sealed c), .ok (.opened []), .ok .done, .ok .done, .ok .done, .ok (.sealed r),
        .ok (.opened [7])] := by
  intro a start
  have fresh : start.Fresh .unit := ⟨KeyPair.unit.publicKey.ofBytes_bytes, rfl, rfl, rfl⟩
  refine ⟨fresh, ?_⟩
  let asking : Call := ⟨.encryptRequest [], a⟩
  let asked := asking.turn start
  obtain ⟨-, -, -, -, seals⟩ := exchange fresh [asking]
  obtain ⟨c, made⟩ := seals [] asked [] ⟨[], asking, [], rfl, rfl, rfl⟩ (.inl rfl)
  let reading : Call := ⟨.decryptRequest c, a⟩
  let read := reading.turn asked.after
  obtain ⟨opens, -⟩ := exchange fresh [asking, reading]
  have got : read.result = .ok (.opened []) :=
    opens [] [asked] asked read [] c ⟨[], asking, [reading], rfl, rfl, rfl⟩
      ⟨[asking], reading, [], rfl, rfl, rfl⟩ rfl made rfl rfl rfl
  let changing : List Call :=
    [⟨.encryptorInfo1 [3], a⟩, ⟨.encryptorInfo2 [5], a⟩, ⟨.decryptorInfo2 [5], a⟩]
  let changed := read.after.history changing
  have accepted : lastOpened (asked :: read :: changed) = some (c, [1]) := by
    have second : read.opening? = some (c, [1]) := Turn.opening?_eq_some rfl got
    unfold lastOpened
    rw [List.filterMap_cons_none rfl, List.filterMap_cons_some second]
    rfl
  let answering : Call := ⟨.encryptResponse [7], a⟩
  let answered := answering.turn (start.after (asking :: reading :: changing))
  obtain ⟨-, -, -, -, answers⟩ := exchange fresh (asking :: reading :: changing ++ [answering])
  obtain ⟨r, replied⟩ := answers (asked :: read :: changed) answered [7]
    ⟨asking :: reading :: changing, answering, [], rfl, rfl, rfl⟩
    (.inr ⟨rfl, Option.isSome_iff_exists.2 ⟨_, accepted⟩⟩)
  have sent : lastSealed (asked :: read :: changed ++ [answered]) = some (c, [1]) := by
    have first : asked.sealing? = some (c, [1]) := Turn.sealing?_eq_some rfl made
    rw [lastSealed_concat]
    unfold lastSealed
    rw [List.filterMap_cons_some first]
    rfl
  let closing : Call := ⟨.decryptResponse r, a⟩
  let closed := closing.turn (start.after (asking :: reading :: changing ++ [answering]))
  obtain ⟨-, -, responds, -⟩ :=
    exchange fresh (asking :: reading :: changing ++ [answering, closing])
  have last : closed.result = .ok (.opened [7]) :=
    responds (c, [1]) (asked :: read :: changed) (asked :: read :: changed ++ [answered]) answered closed
      [7] r ⟨asking :: reading :: changing, answering, [closing], rfl, rfl, rfl⟩
      ⟨asking :: reading :: changing ++ [answering], closing, [], rfl, rfl, rfl⟩ accepted sent rfl replied
      rfl rfl
  refine ⟨c, r, ?_⟩
  show [asked.result, read.result, .ok .done, .ok .done, .ok .done, answered.result, closed.result] = _
  rw [made, got, replied, last]

end Channel

end DeviceAuth
