import DeviceAuth.Envelope
import DeviceAuth.Proofs.Cipher.Cbc
import DeviceAuth.Proofs.Curve.Key
import DeviceAuth.Proofs.Effects

/-!
# Sealing and opening

What is sealed under some keys is opened under them, if the tag is checked over what it was made over.
A request carries the ephemeral key from which its keys are computed, by the device with the ephemeral
private key and by the server with its own. `Envelope.requestKeys` is the server's computation, and
`Encryptor.keys_of_encryptRequest` says that the device has done the same one, whatever it drew.

Each of the four operations below is described by one equivalence or by what it leaves behind, so that
a statement about a whole exchange need not look into them again.
-/

set_option autoImplicit false

namespace DeviceAuth

variable {a a' : Ambient}

/-! ## Messages -/

namespace Envelope

/-- The message that `close` makes with this initialisation vector. -/
def sealed (k : SealingKeys) (key : Option Bytes) (iv : Octets 16) (info2 plaintext : Bytes) :
    Cryptogram :=
  ⟨key, body k iv plaintext, tag k (key.getD []) (body k iv plaintext) info2⟩

theorem gives_close {k : SealingKeys} {key : Option Bytes} {info2 plaintext : Bytes} {c : Cryptogram} :
    (close k key info2 plaintext).Gives a c a' ↔
      c = sealed k key (a.entropy.draw 16).1 info2 plaintext
        ∧ a' = { a with entropy := (a.entropy.draw 16).2 } := by
  unfold close
  simp [sealed, and_comm]

/-- A message that is opened is whole blocks, at least two of them, and has the tag it should have. -/
theorem form_of_contents {k : SealingKeys} {ephemeral info2 plaintext : Bytes} {c : Cryptogram}
    (opened : contents k ephemeral info2 c = .ok plaintext) :
    32 ≤ c.body.length ∧ c.body.length % 16 = 0 ∧ c.mac = tag k ephemeral c.body info2 := by
  unfold contents at opened
  split at opened
  · cases opened
  · next long =>
    split at opened
    · next right =>
      unfold Cbc.decrypt at opened
      split at opened
      · cases opened
      · next whole =>
        rw [List.length_drop] at whole
        exact ⟨by omega, by omega, (Bytes.matching_iff.1 right).symm⟩
    · cases opened

/-- A message is opened to what decrypts under its vector, if it has the tag it should have. -/
theorem contents_eq_ok_iff {k : SealingKeys} {ephemeral info2 plaintext : Bytes} {c : Cryptogram} :
    contents k ephemeral info2 c = .ok plaintext ↔
      c.mac = tag k ephemeral c.body info2
        ∧ ∃ (iv : Octets 16) (text : Bytes), c.body = iv.bytes ++ text
          ∧ Cbc.decrypt k.encryption iv.bytes text .counted = .ok plaintext := by
  constructor
  · intro opened
    obtain ⟨long, -, mac⟩ := form_of_contents opened
    have vector : (c.body.take 16).length = 16 := by
      rw [List.length_take]
      omega
    refine ⟨mac, ⟨c.body.take 16, vector⟩, c.body.drop 16, by simp, ?_⟩
    unfold contents at opened
    rwa [if_neg (by omega), if_pos (Bytes.matching_iff.2 mac.symm)] at opened
  · rintro ⟨mac, iv, text, body, decrypted⟩
    obtain ⟨some, whole, -⟩ := Cbc.decrypt_eq_ok_iff.1 decrypted
    have front : c.body.take 16 = iv.bytes := by
      rw [body, List.take_left' iv.length_eq]
    have back : c.body.drop 16 = text := by
      rw [body, List.drop_left' iv.length_eq]
    have long : ¬c.body.length < 32 := by
      have pos := List.length_pos_of_ne_nil some
      rw [body, List.length_append, iv.length_eq]
      omega
    unfold contents
    rw [if_neg long, if_pos (Bytes.matching_iff.2 mac.symm), front, back]
    exact decrypted

/-- **A message is opened with the keys it was sealed with**, under the same second information. -/
theorem contents_sealed (k : SealingKeys) (key : Option Bytes) (iv : Octets 16)
    (info2 plaintext : Bytes) :
    contents k (key.getD []) info2 (sealed k key iv info2 plaintext) = .ok plaintext :=
  contents_eq_ok_iff.2 ⟨rfl, iv, _, rfl, Cbc.decrypt_encryptFilled k.encryption iv plaintext⟩

theorem contents_of_eq_sealed {k : SealingKeys} {iv : Octets 16} {info2 plaintext : Bytes}
    {c : Cryptogram} (closed : c = sealed k c.key iv info2 plaintext) :
    contents k (c.key.getD []) info2 c = .ok plaintext := by
  have own := contents_sealed k c.key iv info2 plaintext
  rw [← closed] at own
  exact own

/-- The keys that the server with this key pair has for a request. -/
def requestKeys (server : KeyPair) (info1 : Bytes) (c : Cryptogram) : Option SealingKeys :=
  match c.key with
  | none => none
  | some key =>
    match PublicKey.ofBytes key with
    | .error _ => none
    | .ok ephemeral => some (keys (server.sharedSecret ephemeral) info1)

theorem requestKeys_eq_some_iff {server : KeyPair} {info1 : Bytes} {c : Cryptogram} {k : SealingKeys} :
    requestKeys server info1 c = some k ↔
      ∃ key ephemeral, c.key = some key ∧ PublicKey.ofBytes key = .ok ephemeral
        ∧ k = keys (server.sharedSecret ephemeral) info1 := by
  unfold requestKeys
  cases c.key with
  | none => simp
  | some key =>
    cases read : PublicKey.ofBytes key with
    | error why => simp [read]
    | ok ephemeral => simp [read, eq_comm]

end Envelope

open Envelope

/-! ## Requests -/

namespace Encryptor

variable {e e' : Encryptor} {server : KeyPair} {plaintext : Bytes} {c : Cryptogram}

/-- **The device seals a request with the keys the server has for it**, and keeps them. -/
theorem keys_of_encryptRequest (key : PublicKey.ofBytes e.publicKey = .ok server.publicKey)
    (h : (encryptRequest plaintext).Gives e a c e' a') :
    ∃ k iv, requestKeys server e.info1 c = some k ∧ c = sealed k c.key iv e.info2 plaintext
      ∧ e' = { e with keys := some k } := by
  unfold encryptRequest at h
  rw [Change.gives_object_bind] at h
  simp [key, gives_close] at h
  obtain ⟨ephemeral, _, -, ⟨rfl, -⟩, rfl⟩ := h
  have found := ephemeral.publicKey.ofBytes_bytes
  refine ⟨_, _, requestKeys_eq_some_iff.2 ⟨_, _, rfl, found, ?_⟩, rfl, rfl⟩
  -- The device computes from its ephemeral scalar, the server from the point it was sent.
  rw [ephemeral.sharedSecret_comm server]

theorem exists_gives_encryptRequest (key : PublicKey.ofBytes e.publicKey = .ok server.publicKey)
    (plaintext : Bytes) (a : Ambient) :
    ∃ c e' a', (encryptRequest plaintext).Gives e a c e' a' := by
  unfold encryptRequest
  simp [key, gives_close]
  exact KeyPair.sure_generate a

end Encryptor

namespace Decryptor

variable {d d' : Decryptor} {plaintext : Bytes} {c : Cryptogram}

theorem gives_decryptRequest :
    (decryptRequest c).Gives d a plaintext d' a' ↔
      ∃ k, requestKeys d.pair d.info1 c = some k
        ∧ contents k (c.key.getD []) d.info2 c = .ok plaintext
        ∧ d' = { d with keys := some k } ∧ a' = a := by
  unfold decryptRequest
  rw [Change.gives_object_bind]
  cases given : c.key with
  | none => simp [requestKeys_eq_some_iff, given]
  | some key =>
    simp [requestKeys_eq_some_iff, given]

theorem atomic_decryptRequest (c : Cryptogram) : (decryptRequest c).Atomic := by
  refine Change.still_object.bind_atomic fun d => ?_
  -- Keys are stored last, after the tag and the filling were found right.
  have opens (key : Bytes) : (do
      let ephemeral ← (PublicKey.ofBytes key : Except Reason PublicKey)
      let k := Envelope.keys (d.pair.sharedSecret ephemeral) d.info1
      let plaintext ← (contents k key d.info2 c : Except Reason Bytes)
      Change.become { d with keys := some k }
      return plaintext : Change Decryptor Bytes).Atomic := by
    refine (Change.still_liftM_reasoned _).bind_atomic fun ephemeral => ?_
    exact (Change.still_liftM_reasoned _).bind_atomic fun plaintext =>
      Change.atomic_become_pure _ plaintext
  cases c.key with
  | none => exact (Change.still_liftM _).bind_atomic opens
  | some key => exact (Change.still_pure key).bind_atomic opens

end Decryptor

/-! ## Responses -/

theorem Decryptor.gives_encryptResponse {d : Decryptor} {plaintext : Bytes} {c : Cryptogram} :
    (d.encryptResponse plaintext).Gives a c a' ↔
      ∃ k, d.keys = some k ∧ c = sealed k none (a.entropy.draw 16).1 d.info2 plaintext
        ∧ a' = { a with entropy := (a.entropy.draw 16).2 } := by
  unfold encryptResponse
  cases d.keys with
  | none => simp
  | some k => simp [gives_close]

theorem Encryptor.gives_decryptResponse {e : Encryptor} {plaintext : Bytes} {c : Cryptogram} :
    (e.decryptResponse c).Gives a plaintext a' ↔
      ∃ k, e.keys = some k ∧ contents k [] e.info2 c = .ok plaintext ∧ a' = a := by
  unfold decryptResponse
  cases e.keys with
  | none => simp
  | some k => simp

end DeviceAuth
