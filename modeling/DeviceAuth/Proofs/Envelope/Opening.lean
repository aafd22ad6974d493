import DeviceAuth.Proofs.Cipher.Inverse
import DeviceAuth.Proofs.Envelope.Sealing
import DeviceAuth.Proofs.Kdf.Stretching

/-!
# Only what was sealed is opened

What is sealed under some keys is opened under them. Here is the converse, for messages from anybody:
a message is opened to some plaintext exactly if it seals that plaintext
(`Envelope.contents_eq_ok_iff_seals`). `Envelope.Seals` says so of a message without the code that makes
or opens one: the body is a vector and the plaintext encrypted under it, and the tag is the digest over
the ephemeral key, the body and the second information.

The plaintext is therefore settled by the body, and the tag by everything before it. All other messages
are refused in one way, whichever of the checks stops them.
-/

set_option autoImplicit false

namespace DeviceAuth

/-- The two sealing keys are the first 32 octets of the stretched secret. -/
theorem SealingKeys.derive_bytes (secret info : Bytes) :
    (derive secret info).encryption.bytes ++ (derive secret info).authentication.bytes
      = Kdf.x963 secret info 32 := by
  rw [Kdf.x963_block]
  exact List.take_append_drop 16 _

/-- No other pair of keys is. -/
theorem SealingKeys.eq_derive_iff {k : SealingKeys} {secret info : Bytes} :
    k = derive secret info ↔
      k.encryption.bytes ++ k.authentication.bytes = Kdf.x963 secret info 32 := by
  rw [← derive_bytes]
  constructor
  · rintro rfl
    rfl
  · intro same
    obtain ⟨first, second⟩ := List.append_inj same
      (k.encryption.length_eq.trans (derive secret info).encryption.length_eq.symm)
    cases k
    exact congrArg₂ mk (Octets.ext first) (Octets.ext second)

namespace Envelope

/-- A message seals a plaintext under some keys, behind some octets and for some second information. -/
structure Seals (k : SealingKeys) (ephemeral info2 : Bytes) (c : Cryptogram) (plaintext : Bytes) :
    Prop where
  body : ∃ (iv : Octets 16) (text : Bytes), c.body = iv.bytes ++ text
    ∧ Cbc.encrypt k.encryption iv.bytes plaintext .counted = .ok text
  mac : c.mac = (hmac k.authentication.bytes (ephemeral ++ c.body ++ info2)).bytes

variable {k : SealingKeys} {ephemeral info2 plaintext other : Bytes} {c c' : Cryptogram}

/-- **A message is opened to what it seals**, and nothing else is opened. -/
theorem contents_eq_ok_iff_seals :
    contents k ephemeral info2 c = .ok plaintext ↔ Seals k ephemeral info2 c plaintext := by
  rw [contents_eq_ok_iff]
  constructor
  · rintro ⟨mac, iv, text, body, decrypted⟩
    exact ⟨⟨iv, text, body, (Cbc.decrypt_eq_ok_iff_encrypt.1 decrypted).2⟩, mac⟩
  · rintro ⟨⟨iv, text, body, encrypted⟩, mac⟩
    rw [Cbc.encrypt_counted, Except.ok.injEq] at encrypted
    exact ⟨mac, iv, text, body, Cbc.decrypt_counted_eq_ok_iff.2 encrypted.symm⟩

/-- What is sealed seals its plaintext. -/
theorem seals_sealed (k : SealingKeys) (key : Option Bytes) (iv : Octets 16) (info2 plaintext : Bytes) :
    Seals k (key.getD []) info2 (sealed k key iv info2 plaintext) plaintext :=
  ⟨⟨iv, _, rfl, Cbc.encrypt_counted iv⟩, rfl⟩

/-- The body settles the plaintext, and what the tag is made over settles the tag. -/
theorem Seals.unique (h : Seals k ephemeral info2 c plaintext)
    (h' : Seals k ephemeral info2 c' other) (same : c'.body = c.body) :
    other = plaintext ∧ c'.mac = c.mac := by
  obtain ⟨iv, text, shape, encrypted⟩ := h.body
  obtain ⟨iv', text', shape', encrypted'⟩ := h'.body
  rw [Cbc.encrypt_counted, Except.ok.injEq] at encrypted encrypted'
  have whole : iv'.bytes ++ text' = iv.bytes ++ text := by rw [← shape', ← shape, same]
  obtain ⟨front, back⟩ := List.append_inj whole (iv'.length_eq.trans iv.length_eq.symm)
  obtain rfl := Octets.ext front
  have read := Cbc.decrypt_encryptFilled k.encryption iv' plaintext
  have read' := Cbc.decrypt_encryptFilled k.encryption iv' other
  rw [encrypted', back, ← encrypted] at read'
  exact ⟨Except.ok.inj (read'.symm.trans read), by rw [h.mac, h'.mac, same]⟩

end Envelope

open Envelope

/-! ## Both legs -/

namespace Decryptor

variable {d d' : Decryptor} {c : Cryptogram} {plaintext : Bytes} {a a' : Ambient}

/-- A request is opened with the keys below its own ephemeral key. -/
theorem exists_gives_decryptRequest_iff :
    (∃ d' a', (decryptRequest c).Gives d a plaintext d' a') ↔
      ∃ key ephemeral, c.key = some key ∧ PublicKey.ofBytes key = .ok ephemeral
        ∧ Seals (Envelope.keys (d.pair.sharedSecret ephemeral) d.info1) key d.info2 c plaintext := by
  constructor
  · rintro ⟨d', a', ran⟩
    obtain ⟨k, found, opened, -, -⟩ := gives_decryptRequest.1 ran
    obtain ⟨key, ephemeral, given, read, rfl⟩ := requestKeys_eq_some_iff.1 found
    rw [given, Option.getD_some] at opened
    exact ⟨key, ephemeral, given, read, contents_eq_ok_iff_seals.1 opened⟩
  · rintro ⟨key, ephemeral, given, read, seals⟩
    have opened := contents_eq_ok_iff_seals.2 seals
    refine ⟨_, a, gives_decryptRequest.2 ⟨_, requestKeys_eq_some_iff.2 ⟨key, ephemeral, given, read, rfl⟩,
      ?_, rfl, rfl⟩⟩
    rw [given, Option.getD_some]
    exact opened

/-- Whichever check stops a request, it is refused in one way. -/
theorem refuses_decryptRequest (h : ∀ a plaintext d' a', ¬(decryptRequest c).Gives d a plaintext d' a') :
    (decryptRequest c).Refuses d := by
  have refuses : ∀ key, c.key = some key → (do
      let ephemeral ← (PublicKey.ofBytes key : Except Reason PublicKey)
      let k := Envelope.keys (d.pair.sharedSecret ephemeral) d.info1
      let plaintext ← (contents k key d.info2 c : Except Reason Bytes)
      Change.become { d with keys := some k }
      return plaintext : Change Decryptor Bytes).Refuses d := by
    intro key given
    cases read : PublicKey.ofBytes key with
    | error why => exact (Change.refuses_liftM (Core.refuses_refuse why) d).bind _
    | ok ephemeral =>
      refine Change.Refuses.after (Core.returns_reasoned.2 rfl) ?_
      refine (Change.refuses_reasoned (fun plaintext opened => ?_) d).bind _
      obtain ⟨d', a', ran⟩ := exists_gives_decryptRequest_iff.2
        ⟨key, ephemeral, given, read, contents_eq_ok_iff_seals.1 opened⟩
      exact h ⟨⟨[], 0⟩, 0, []⟩ plaintext d' a' ran
  unfold decryptRequest
  intro a
  rw [Change.result_object_bind]
  cases given : c.key with
  | none => exact (Change.refuses_liftM (Core.refuses_refuse _) d).bind _ a
  | some key => exact refuses key given a

end Decryptor

namespace Encryptor

variable {e : Encryptor} {k : SealingKeys} {c : Cryptogram} {plaintext : Bytes}

/-- A response is opened with the keys of the request, and whatever key it carries is not looked at. -/
theorem returns_decryptResponse_iff (held : e.keys = some k) :
    (e.decryptResponse c).Returns plaintext ↔ Seals k [] e.info2 c plaintext := by
  rw [← contents_eq_ok_iff_seals]
  constructor
  · intro ran
    obtain ⟨k', held', opened, -⟩ := gives_decryptResponse.1 (ran ⟨⟨[], 0⟩, 0, []⟩)
    obtain rfl := Option.some.inj (held.symm.trans held')
    exact opened
  · exact fun opened a => gives_decryptResponse.2 ⟨k, held, opened, rfl⟩

theorem refuses_decryptResponse (held : e.keys = some k)
    (h : ∀ plaintext, ¬(e.decryptResponse c).Returns plaintext) : (e.decryptResponse c).Refuses := by
  have sealsNone : ∀ plaintext, contents k [] e.info2 c ≠ .ok plaintext := fun plaintext opened =>
    h plaintext ((returns_decryptResponse_iff held).2 (contents_eq_ok_iff_seals.1 opened))
  unfold decryptResponse
  rw [held]
  exact Core.refuses_reasoned sealsNone

end Encryptor

/-- **Opening accepts exactly what sealing makes.** Whoever a message is from, a request is opened to a
plaintext exactly if its ephemeral key is a point of the curve and it seals that plaintext under the keys
that the secret shared with this point is stretched to; a response exactly if it seals the plaintext under
the keys of the request, behind no key. Every other message is refused. For a key and a body that is
sealed for it there is one tag that is accepted, and the body settles what is found. -/
theorem Envelope.opens_only_sealed :
    (∀ (d : Decryptor) (c : Cryptogram) (plaintext : Bytes) (a : Ambient),
      (∃ d' a', (Decryptor.decryptRequest c).Gives d a plaintext d' a') ↔
        ∃ key ephemeral k, c.key = some key ∧ PublicKey.ofBytes key = .ok ephemeral
          ∧ k.encryption.bytes ++ k.authentication.bytes
            = Kdf.x963 (d.pair.sharedSecret ephemeral).bytes d.info1 32
          ∧ Seals k key d.info2 c plaintext)
    ∧ (∀ (d : Decryptor) (c : Cryptogram),
      (∀ a plaintext d' a', ¬(Decryptor.decryptRequest c).Gives d a plaintext d' a') →
      (Decryptor.decryptRequest c).Refuses d)
    ∧ (∀ (e : Encryptor) (k : SealingKeys) (c : Cryptogram) (plaintext : Bytes), e.keys = some k →
      ((e.decryptResponse c).Returns plaintext ↔ Seals k [] e.info2 c plaintext))
    ∧ (∀ (e : Encryptor) (k : SealingKeys) (c : Cryptogram), e.keys = some k →
      (∀ plaintext, ¬(e.decryptResponse c).Returns plaintext) → (e.decryptResponse c).Refuses)
    ∧ (∀ (d : Decryptor) (c : Cryptogram) (plaintext : Bytes) (a : Ambient),
      (∃ d' a', (Decryptor.decryptRequest c).Gives d a plaintext d' a') → ∀ mac other,
      (∃ d' a', (Decryptor.decryptRequest { c with mac }).Gives d a other d' a') ↔
        mac = c.mac ∧ other = plaintext)
    ∧ ∀ (e : Encryptor) (c : Cryptogram) (plaintext : Bytes),
      (e.decryptResponse c).Returns plaintext → ∀ key mac other,
      (e.decryptResponse ⟨key, c.body, mac⟩).Returns other ↔ mac = c.mac ∧ other = plaintext := by
  refine ⟨?_, ?_, ?_, ?_, ?_, ?_⟩
  · intro d c plaintext a
    rw [Decryptor.exists_gives_decryptRequest_iff]
    constructor
    · rintro ⟨key, ephemeral, given, read, seals⟩
      exact ⟨key, ephemeral, _, given, read, SealingKeys.derive_bytes _ _, seals⟩
    · rintro ⟨key, ephemeral, k, given, read, stretched, seals⟩
      obtain rfl := SealingKeys.eq_derive_iff.2 stretched
      exact ⟨key, ephemeral, given, read, seals⟩
  · exact fun d c => Decryptor.refuses_decryptRequest
  · exact fun e k c plaintext => Encryptor.returns_decryptResponse_iff
  · exact fun e k c => Encryptor.refuses_decryptResponse
  · intro d c plaintext a accepted mac other
    rw [Decryptor.exists_gives_decryptRequest_iff] at accepted ⊢
    obtain ⟨key, ephemeral, given, read, seals⟩ := accepted
    constructor
    · rintro ⟨key', ephemeral', given', read', seals'⟩
      obtain rfl := Option.some.inj (given.symm.trans given')
      obtain rfl := Except.ok.inj (read.symm.trans read')
      exact (seals.unique seals' rfl).symm
    · rintro ⟨rfl, rfl⟩
      exact ⟨key, ephemeral, given, read, seals⟩
  · intro e c plaintext accepted key mac other
    obtain ⟨k, held, -⟩ := Encryptor.gives_decryptResponse.1 (accepted ⟨⟨[], 0⟩, 0, []⟩)
    rw [Encryptor.returns_decryptResponse_iff held] at accepted ⊢
    constructor
    · exact fun accepted' => (accepted.unique accepted' rfl).symm
    · rintro ⟨rfl, rfl⟩
      exact ⟨accepted.body, accepted.mac⟩

/-- A request and a response, each opened, and refused without its key or with its tag cut off. -/
theorem Envelope.opened_of_unit :
    ∃ (k : SealingKeys) (c r : Cryptogram),
      let d : Decryptor := ⟨.unit, [1], [2], none⟩
      let e : Encryptor := ⟨KeyPair.unit.publicKey.bytes, [1], [2], some k⟩
      let a : Ambient := ⟨⟨[], 7⟩, 0, []⟩
      (∃ d' a', (Decryptor.decryptRequest c).Gives d a [7] d' a')
      ∧ (Decryptor.decryptRequest { c with key := none }).Refuses d
      ∧ (¬∃ d' a', (Decryptor.decryptRequest { c with mac := [] }).Gives d a [7] d' a')
      ∧ (e.decryptResponse r).Returns [8] ∧ (e.decryptResponse { r with mac := [] }).Refuses := by
  let d : Decryptor := ⟨.unit, [1], [2], none⟩
  let k := Envelope.keys (KeyPair.unit.sharedSecret KeyPair.unit.publicKey) [1]
  let e : Encryptor := ⟨KeyPair.unit.publicKey.bytes, [1], [2], some k⟩
  let a : Ambient := ⟨⟨[], 7⟩, 0, []⟩
  let c := sealed k (some KeyPair.unit.publicKey.bytes) .zero [2] [7]
  let r := sealed k none .zero [2] [8]
  have cut : ∀ m : Cryptogram, m.mac.length = 32 → ([] : Bytes) ≠ m.mac := by
    intro m length none
    rw [← none] at length
    cases length
  obtain ⟨request, refuses, response, refuses', one, one'⟩ := opens_only_sealed
  have opened : ∃ d' a', (Decryptor.decryptRequest c).Gives d a [7] d' a' :=
    (request d c [7] a).2 ⟨_, _, k, rfl, KeyPair.unit.publicKey.ofBytes_bytes,
      SealingKeys.derive_bytes _ _,
      seals_sealed k (some KeyPair.unit.publicKey.bytes) .zero [2] [7]⟩
  have answered : (e.decryptResponse r).Returns [8] :=
    (response e k r [8] rfl).2 (seals_sealed k none .zero [2] [8])
  refine ⟨k, c, r, opened, refuses d _ ?_, ?_, answered, refuses' e k _ rfl ?_⟩
  · intro a plaintext d' a' ran
    obtain ⟨_, _, _, none, -⟩ := (request d _ plaintext a).1 ⟨d', a', ran⟩
    cases none
  · intro opened'
    exact cut c (Octets.length_eq _) ((one d c [7] a opened [] [7]).1 opened').1
  · intro plaintext answered'
    exact cut r (Octets.length_eq _) ((one' e r [8] answered none [] plaintext).1 answered').1

end DeviceAuth
