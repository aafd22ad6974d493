import DeviceAuth.Proofs.Envelope.Sealing

/-!
# Requests and responses keep apart

The tag of a message is made over the ephemeral key, the body and the second information, one after the
other, with no lengths between them and nothing that says whether it is a request or a response. What
keeps the two apart is arithmetic. A body that is opened is whole blocks of sixteen octets. A key that
is read has 33 or 65 octets, one more than whole blocks, while a response has no key; so the length of
the whole string tells the leg. Within the requests the first octet of the key tells its length.
-/

set_option autoImplicit false

namespace DeviceAuth

open Envelope

/-- The way a message goes. -/
inductive Envelope.Leg where
  | request
  | response
deriving DecidableEq, Repr

namespace Cryptogram

/-- The octets before the body that the tag of a message covers. -/
def ephemeral (c : Cryptogram) : Leg → Bytes
  | .request => c.key.getD []
  | .response => []

/-- A message is opened on this leg by somebody with this second information, who authenticates it
with this key. -/
def Accepted (c : Cryptogram) (authentication : SymmetricKey) (info2 : Bytes) : Leg → Prop
  | .request => ∃ (d d' : Decryptor) (k : SealingKeys) (plaintext : Bytes) (a a' : Ambient),
      (Decryptor.decryptRequest c).Gives d a plaintext d' a' ∧ d.info2 = info2
      ∧ d'.keys = some k ∧ k.authentication = authentication
  | .response => ∃ (e : Encryptor) (k : SealingKeys) (plaintext : Bytes) (a a' : Ambient),
      (e.decryptResponse c).Gives a plaintext a' ∧ e.info2 = info2
      ∧ e.keys = some k ∧ k.authentication = authentication

variable {c c' : Cryptogram} {authentication : SymmetricKey} {info2 : Bytes} {leg : Leg}

/-- Whoever opens a message has checked its tag and its length. -/
theorem Accepted.form (h : c.Accepted authentication info2 leg) :
    c.body.length % 16 = 0
      ∧ c.mac = (hmac authentication.bytes (authenticated (c.ephemeral leg) c.body info2)).bytes := by
  cases leg with
  | request =>
    obtain ⟨d, d', k, plaintext, a, a', opened, rfl, keys, rfl⟩ := h
    obtain ⟨k', -, read, rfl, -⟩ := Decryptor.gives_decryptRequest.1 opened
    obtain rfl := Option.some.inj keys
    obtain ⟨-, whole, mac⟩ := form_of_contents read
    exact ⟨whole, mac⟩
  | response =>
    obtain ⟨e, k, plaintext, a, a', opened, rfl, keys, rfl⟩ := h
    obtain ⟨k', keys', read, -⟩ := Encryptor.gives_decryptResponse.1 opened
    obtain rfl := Option.some.inj (keys.symm.trans keys')
    obtain ⟨-, whole, mac⟩ := form_of_contents read
    exact ⟨whole, mac⟩

theorem Accepted.exists_key (h : c.Accepted authentication info2 .request) :
    ∃ first rest, c.key = some (first :: rest)
      ∧ rest.length = if first = 0x04 then 64 else 32 := by
  obtain ⟨d, d', k, plaintext, a, a', opened, -⟩ := h
  obtain ⟨k', found, -⟩ := Decryptor.gives_decryptRequest.1 opened
  obtain ⟨key, point, given, read, -⟩ := requestKeys_eq_some_iff.1 found
  obtain ⟨first, rest, rfl, length⟩ := PublicKey.exists_of_ofBytes read
  exact ⟨first, rest, given, length⟩

/-- The key of a request is one octet longer than whole blocks. -/
theorem Accepted.length_key (h : c.Accepted authentication info2 .request) :
    (c.ephemeral .request).length % 16 = 1 := by
  obtain ⟨first, rest, key, length⟩ := h.exists_key
  rw [ephemeral, key, Option.getD_some, List.length_cons, length]
  split
  · rfl
  · rfl

/-- The length of the string under the tag tells the leg. -/
theorem Accepted.leg_eq {authentication' : SymmetricKey} {info2' : Bytes} {leg' : Leg}
    (h : c.Accepted authentication info2 leg) (h' : c'.Accepted authentication' info2' leg')
    (same : c.ephemeral leg ++ c.body = c'.ephemeral leg' ++ c'.body) : leg = leg' := by
  -- Modulo sixteen, the body adds nothing, a request's key adds one and a response has none.
  have lengths := congrArg List.length same
  rw [List.length_append, List.length_append] at lengths
  have whole := h.form.1
  have whole' := h'.form.1
  cases leg with
  | request =>
    have odd := h.length_key
    cases leg' with
    | request => rfl
    | response =>
      have none : (c'.ephemeral .response).length = 0 := rfl
      omega
  | response =>
    have none : (c.ephemeral .response).length = 0 := rfl
    cases leg' with
    | request =>
      have odd := h'.length_key
      omega
    | response => rfl

/-- The first octet of a request's key tells where its body begins. -/
theorem Accepted.request_eq {authentication' : SymmetricKey} {info2' : Bytes}
    (h : c.Accepted authentication info2 .request) (h' : c'.Accepted authentication' info2' .request)
    (same : c.ephemeral .request ++ c.body = c'.ephemeral .request ++ c'.body) :
    c.key = c'.key ∧ c.body = c'.body := by
  obtain ⟨first, rest, key, length⟩ := h.exists_key
  obtain ⟨first', rest', key', length'⟩ := h'.exists_key
  rw [ephemeral, ephemeral, key, key', Option.getD_some, Option.getD_some, List.cons_append,
    List.cons_append] at same
  obtain ⟨rfl, tails⟩ := List.cons.inj same
  obtain ⟨rfl, body⟩ := List.append_inj tails (length.trans length'.symm)
  exact ⟨key.trans key'.symm, body⟩

/-- **The tag separates the legs.** It is made with the key to authenticate with over the ephemeral
key, the body and the second information in a row. If this string is the same for two messages that
are opened under the same second information, the two go the same way and have the same ephemeral key
and the same body. A request whose key was moved into its body is not opened as a response, and a
response whose first octets were made a key is not opened as a request, whoever tries. -/
theorem legs_separated :
    (∀ (c : Cryptogram) (authentication : SymmetricKey) (info2 : Bytes) (leg : Leg),
      c.Accepted authentication info2 leg →
      c.mac = (hmac authentication.bytes (authenticated (c.ephemeral leg) c.body info2)).bytes)
    ∧ (∀ (c c' : Cryptogram) (authentication authentication' : SymmetricKey) (info2 : Bytes)
        (leg leg' : Leg),
      c.Accepted authentication info2 leg → c'.Accepted authentication' info2 leg' →
      authenticated (c.ephemeral leg) c.body info2 = authenticated (c'.ephemeral leg') c'.body info2 →
      leg = leg' ∧ c.ephemeral leg = c'.ephemeral leg' ∧ c.body = c'.body
      ∧ (leg = .request → c.key = c'.key))
    ∧ (∀ (c c' : Cryptogram) (authentication authentication' : SymmetricKey) (info2 info2' key : Bytes),
      c.Accepted authentication info2 .request → c.key = some key → c'.body = key ++ c.body →
      ¬c'.Accepted authentication' info2' .response)
    ∧ ∀ (c c' : Cryptogram) (authentication authentication' : SymmetricKey) (info2 info2' key : Bytes),
      c.Accepted authentication info2 .response → c'.key = some key → c.body = key ++ c'.body →
      ¬c'.Accepted authentication' info2' .request := by
  refine ⟨?_, ?_, ?_, ?_⟩
  · intro c authentication info2 leg accepted
    exact accepted.form.2
  · intro c c' authentication authentication' info2 leg leg' accepted accepted' same
    have strings : c.ephemeral leg ++ c.body = c'.ephemeral leg' ++ c'.body :=
      List.append_cancel_right same
    obtain rfl := accepted.leg_eq accepted' strings
    refine ⟨rfl, ?_⟩
    cases leg with
    | request =>
      obtain ⟨key, body⟩ := accepted.request_eq accepted' strings
      exact ⟨congrArg (·.getD []) key, body, fun _ => key⟩
    | response => exact ⟨rfl, strings, nofun⟩
  -- Moving a key across is the case of two messages on different legs with one string between them.
  · intro c c' authentication authentication' info2 info2' key accepted given moved accepted'
    have strings : c.ephemeral .request ++ c.body = c'.ephemeral .response ++ c'.body := by
      rw [ephemeral, given, moved]
      rfl
    cases accepted.leg_eq accepted' strings
  · intro c c' authentication authentication' info2 info2' key accepted given moved accepted'
    have strings : c.ephemeral .response ++ c.body = c'.ephemeral .request ++ c'.body := by
      rw [ephemeral, ephemeral, given, moved]
      rfl
    cases accepted.leg_eq accepted' strings

/-- A request and its response under one key: their tags are made over different strings, and neither
is opened on the other leg with a key moved across. -/
theorem legs_of_unit :
    ∃ (c r : Cryptogram) (key : Bytes) (authentication : SymmetricKey),
      c.key = some key ∧ c.Accepted authentication [2] .request ∧ r.Accepted authentication [2] .response
      ∧ authenticated (c.ephemeral .request) c.body [2] ≠ authenticated (r.ephemeral .response) r.body [2]
      ∧ ¬Accepted ⟨none, key ++ c.body, c.mac⟩ authentication [2] .response
      ∧ ¬Accepted ⟨some (r.body.take 33), r.body.drop 33, r.mac⟩ authentication [2] .request := by
  let a : Ambient := ⟨⟨[], 7⟩, 0, []⟩
  let e : Encryptor := ⟨KeyPair.unit.publicKey.bytes, [1], [2], none⟩
  let d : Decryptor := ⟨.unit, [1], [2], none⟩
  have known : PublicKey.ofBytes e.publicKey = .ok KeyPair.unit.publicKey :=
    KeyPair.unit.publicKey.ofBytes_bytes
  obtain ⟨c, e', a', gives⟩ := Encryptor.exists_gives_encryptRequest known [] a
  obtain ⟨k, iv, found, closed, rfl⟩ := Encryptor.keys_of_encryptRequest known gives
  have read : contents k (c.key.getD []) [2] c = .ok [] := contents_of_eq_sealed closed
  have opened : (Decryptor.decryptRequest c).Gives d a [] { d with keys := some k } a :=
    Decryptor.gives_decryptRequest.2 ⟨k, found, read, rfl, rfl⟩
  have request : c.Accepted k.authentication [2] .request := ⟨d, _, k, [], a, a, opened, rfl, rfl, rfl⟩
  let r := sealed k none iv [2] [7]
  have answered : (Encryptor.decryptResponse { e with keys := some k } r).Gives a [7] a :=
    Encryptor.gives_decryptResponse.2 ⟨k, rfl, contents_sealed k none iv [2] [7], rfl⟩
  have response : r.Accepted k.authentication [2] .response :=
    ⟨{ e with keys := some k }, k, [7], a, a, answered, rfl, rfl, rfl⟩
  obtain ⟨first, rest, given, -⟩ := request.exists_key
  obtain ⟨-, separates, forth, back⟩ := legs_separated
  refine ⟨c, r, _, k.authentication, given, request, response, ?_, ?_, ?_⟩
  · intro same
    obtain ⟨leg, -⟩ := separates c r _ _ [2] .request .response request response same
    cases leg
  · exact forth c _ _ _ [2] [2] _ request given rfl
  · exact back r _ _ _ [2] [2] _ response rfl (List.take_append_drop 33 r.body).symm

end Cryptogram

end DeviceAuth
