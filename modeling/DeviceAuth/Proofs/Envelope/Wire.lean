import DeviceAuth.Envelope
import DeviceAuth.Proofs.Effects
import DeviceAuth.Proofs.Text.Base64

/-!
# Messages on the wire

A message and its wire form are two ways to write one thing: a request is read as a message exactly when
the message is sent as that request (`Cryptogram.ofRequest_eq_ok_iff`), and a response likewise, for
messages without an ephemeral key. That octets come back from their Base64, and that nothing else is
read, both go into this one equivalence, and what there is to know of the forms can be read off it.
-/

set_option autoImplicit false

namespace DeviceAuth

open Text

/-- All parts of a request are Base64. -/
structure WireRequest.IsCanonical (request : WireRequest) : Prop where
  ephemeralKey : Base64.Canonical request.ephemeralKey.toList
  data : Base64.Canonical request.data.toList
  mac : Base64.Canonical request.mac.toList

/-- Both parts of a response are Base64. -/
structure WireResponse.IsCanonical (response : WireResponse) : Prop where
  data : Base64.Canonical response.data.toList
  mac : Base64.Canonical response.mac.toList

namespace Cryptogram

variable {c : Cryptogram} {request : WireRequest} {response : WireResponse}

/-! ## Requests -/

theorem toRequest_eq_ok_iff :
    c.toRequest = .ok request ↔
      ∃ key, c.key = some key
        ∧ request = ⟨Base64.encode key, Base64.encode c.body, Base64.encode c.mac⟩ := by
  unfold toRequest
  cases c.key with
  | none => simp
  | some key => simp [eq_comm]

/-- **A request is read as a message exactly when the message is sent as that request.** -/
theorem ofRequest_eq_ok_iff : ofRequest request = .ok c ↔ c.toRequest = .ok request := by
  rw [toRequest_eq_ok_iff]
  unfold ofRequest
  simp only [except_bind_eq_ok_iff, Base64.decode_eq_ok_iff]
  constructor
  · rintro ⟨key, encodedKey, body, encodedBody, mac, encodedMac, same⟩
    cases same
    exact ⟨key, rfl, congr (congr (congrArg WireRequest.mk encodedKey) encodedBody) encodedMac⟩
  · rintro ⟨key, own, rfl⟩
    obtain ⟨_, body, mac⟩ := c
    exact ⟨key, rfl, body, rfl, mac, rfl, own ▸ rfl⟩

theorem exists_ofRequest_iff : (∃ c, ofRequest request = .ok c) ↔ request.IsCanonical := by
  simp only [ofRequest_eq_ok_iff, toRequest_eq_ok_iff]
  constructor
  · rintro ⟨c, key, -, rfl⟩
    exact ⟨Base64.canonical_iff.2 ⟨_, rfl⟩, Base64.canonical_iff.2 ⟨_, rfl⟩,
      Base64.canonical_iff.2 ⟨_, rfl⟩⟩
  · rintro ⟨encodedKey, encodedBody, encodedMac⟩
    obtain ⟨key, encodedKey⟩ := Base64.canonical_iff.1 encodedKey
    obtain ⟨body, encodedBody⟩ := Base64.canonical_iff.1 encodedBody
    obtain ⟨mac, encodedMac⟩ := Base64.canonical_iff.1 encodedMac
    exact ⟨⟨some key, body, mac⟩, key, rfl,
      congr (congr (congrArg WireRequest.mk encodedKey) encodedBody) encodedMac⟩

/-! ## Responses -/

theorem ofResponse_eq_ok_iff :
    ofResponse response = .ok c ↔ c.key = none ∧ c.toResponse = response := by
  unfold ofResponse toResponse
  simp only [except_bind_eq_ok_iff, Base64.decode_eq_ok_iff]
  constructor
  · rintro ⟨body, encodedBody, mac, encodedMac, same⟩
    cases same
    exact ⟨rfl, (congr (congrArg WireResponse.mk encodedBody) encodedMac).symm⟩
  · rintro ⟨own, rfl⟩
    obtain ⟨_, body, mac⟩ := c
    exact ⟨body, rfl, mac, rfl, own ▸ rfl⟩

theorem exists_ofResponse_iff : (∃ c, ofResponse response = .ok c) ↔ response.IsCanonical := by
  simp only [ofResponse_eq_ok_iff]
  constructor
  · rintro ⟨c, -, rfl⟩
    exact ⟨Base64.canonical_iff.2 ⟨_, rfl⟩, Base64.canonical_iff.2 ⟨_, rfl⟩⟩
  · rintro ⟨encodedBody, encodedMac⟩
    obtain ⟨body, encodedBody⟩ := Base64.canonical_iff.1 encodedBody
    obtain ⟨mac, encodedMac⟩ := Base64.canonical_iff.1 encodedMac
    exact ⟨⟨none, body, mac⟩, rfl, (congr (congrArg WireResponse.mk encodedBody) encodedMac).symm⟩

/-! ## Both -/

/-- **The wire forms lose nothing and leave no choice.** A message with an ephemeral key comes back from
the request it is sent as, and any message from the response it is sent as, without its key. What is read
is written again as it was, so that two requests, or two responses, are never read as one message.
Exactly the forms all parts of which are Base64 are read, and the others are refused for a cryptographic
reason; a message without an ephemeral key is sent as no request. -/
theorem wire_forms_exact :
    (∀ (c : Cryptogram) (key : Bytes), c.key = some key →
        ∃ request, c.toRequest = .ok request ∧ ofRequest request = .ok c)
    ∧ (∀ c : Cryptogram, c.key = none → c.toRequest = .error (.wrongParameter .ephemeralKeyMissing))
    ∧ (∀ c : Cryptogram, ofResponse c.toResponse = .ok { c with key := none })
    ∧ (∀ request c, ofRequest request = .ok c → c.toRequest = .ok request)
    ∧ (∀ response c, ofResponse response = .ok c → c.toResponse = response)
    ∧ (∀ request, ((∃ c, ofRequest request = .ok c) ↔ request.IsCanonical)
        ∧ (¬ request.IsCanonical → (liftM (ofRequest request) : Core Cryptogram).Refuses))
    ∧ (∀ response, ((∃ c, ofResponse response = .ok c) ↔ response.IsCanonical)
        ∧ (¬ response.IsCanonical → (liftM (ofResponse response) : Core Cryptogram).Refuses))
    ∧ (∀ request other c, ofRequest request = .ok c → ofRequest other = .ok c → request = other)
    ∧ ∀ response other c, ofResponse response = .ok c → ofResponse other = .ok c → response = other := by
  refine ⟨?_, ?_, ?_, fun _ _ => ofRequest_eq_ok_iff.1, fun _ _ h => (ofResponse_eq_ok_iff.1 h).2,
    fun request => ⟨exists_ofRequest_iff, fun other => ?_⟩,
    fun response => ⟨exists_ofResponse_iff, fun other => ?_⟩, ?_, ?_⟩
  · intro c key own
    have sent := toRequest_eq_ok_iff.2 ⟨key, own, rfl⟩
    exact ⟨_, sent, ofRequest_eq_ok_iff.2 sent⟩
  · intro c none
    rw [toRequest, none]
  · exact fun c => ofResponse_eq_ok_iff.2 ⟨rfl, rfl⟩
  · exact Core.refuses_reasoned fun c read => other (exists_ofRequest_iff.1 ⟨c, read⟩)
  · exact Core.refuses_reasoned fun c read => other (exists_ofResponse_iff.1 ⟨c, read⟩)
  · intro request other c read read'
    exact Except.ok.inj
      ((ofRequest_eq_ok_iff.1 read).symm.trans (ofRequest_eq_ok_iff.1 read'))
  · intro response other c read read'
    exact (ofResponse_eq_ok_iff.1 read).2.symm.trans (ofResponse_eq_ok_iff.1 read').2

/-- A message whose parts are padded in the three ways there are; and a request whose key has a bit set
that belongs to no octet. -/
theorem sent_in_three_paddings :
    let c : Cryptogram := ⟨some [4], [1, 2], [1, 2, 3]⟩
    (∃ request, c.toRequest = .ok request ∧ ofRequest request = .ok c
      ∧ ∀ other, ofRequest other = .ok c → other = request)
    ∧ ({ c with key := none } : Cryptogram).toRequest = .error (.wrongParameter .ephemeralKeyMissing)
    ∧ (liftM (ofRequest ⟨"BB==", "AQI=", "AQID"⟩) : Core Cryptogram).Refuses := by
  intro c
  obtain ⟨sent, keyless, -, -, -, requests, -, unique, -⟩ := wire_forms_exact
  obtain ⟨request, written, read⟩ := sent c [4] rfl
  refine ⟨⟨request, written, read, fun other read' => unique other request c read' read⟩,
    keyless _ rfl, (requests _).2 ?_⟩
  intro canonical
  exact absurd canonical.ephemeralKey (by decide +kernel)

end Cryptogram

end DeviceAuth
