import DeviceAuth.Proofs.Bytes
import DeviceAuth.Proofs.Text.Radix
import DeviceAuth.Request

/-!
# Signed data tells what was signed

The parts of signed data are separated by a character that is not escaped, so it matters which of them
can contain it. A method is one of five words, a counter is written in digits or in Base64, and all
other parts but one are Base64, which has no such character. The one is the application secret, and it
stands last: a text is cut at every separator, and whatever comes after the fifth belongs to the secret.
Offline data has one part less and its last part is a fixed word, so the number of pieces keeps it
apart from online data.

`Request.fields_of_text` puts this together: the octets that are signed determine every part.
-/

set_option autoImplicit false

namespace DeviceAuth

/-! ## Parts without a separator -/

namespace Text.Base64

variable {text : String} {bytes : Bytes}

theorem separator_notMem_of_decode? (h : decode? text = some bytes) : '&' ∉ text.toList := by
  intro inside
  have apart : '&' ∉ alphabet.symbols ∧ '&' ≠ '=' := by decide
  rcases mem_of_decode? h inside with symbol | padding
  · exact apart.1 symbol
  · exact apart.2 padding

theorem separator_notMem_encode (bytes : Bytes) : '&' ∉ (encode bytes).toList :=
  separator_notMem_of_decode? (decode?_encode bytes)

theorem padding_mem_encode {bytes : Bytes} (h : bytes.length % 3 ≠ 0) : '=' ∈ (encode bytes).toList := by
  have count : (alphabet.spell bytes).length = (8 * bytes.length + 5) / 6 := by
    simp [Alphabet.spell, Bits.groups, alphabet]
  have some : (4 - (alphabet.spell bytes).length % 4) % 4 ≠ 0 := by omega
  rw [encode, String.toList_ofList, padded]
  exact List.mem_append_right _ (List.mem_replicate.2 ⟨some, rfl⟩)

end Text.Base64

namespace Counter

theorem digits_of_linear (value : UInt64) : ∀ c ∈ (linear value).canonical.toList, c.isDigit := by
  intro c hc
  rw [canonical, Nat.toString_eq_ofList_toDigits, String.toList_ofList] at hc
  exact Nat.isDigit_of_mem_toDigits (by decide) (by decide) hc

theorem separator_notMem_canonical (counter : Counter) : '&' ∉ counter.canonical.toList := by
  intro inside
  cases counter with
  | linear value => exact absurd (digits_of_linear value _ inside) (by decide)
  | hashed data => exact Text.Base64.separator_notMem_encode _ inside

/-- Sixteen octets are filled up in Base64, and padding is not a digit. -/
theorem canonical_linear_ne_hashed (value : UInt64) (data : Octets 16) :
    (linear value).canonical ≠ (hashed data).canonical := by
  intro same
  have padding : '=' ∈ (hashed data).canonical.toList :=
    Text.Base64.padding_mem_encode (by rw [data.length_eq]; decide)
  rw [← same] at padding
  exact absurd (digits_of_linear value _ padding) (by decide)

/-- The kind of a counter and its value can be told from how it is written. -/
theorem canonical_inj {counter counter' : Counter} :
    counter.canonical = counter'.canonical ↔ counter = counter' := by
  constructor
  · intro same
    cases counter with
    | linear value =>
      cases counter' with
      | linear value' =>
        have number := congrArg (fun text : String => Nat.ofDigitChars 10 text.toList 0) same
        simp only [canonical, Nat.toString_eq_ofList_toDigits, String.toList_ofList,
          Nat.ofDigitChars_ten_toDigits] at number
        rw [UInt64.toNat_inj.1 number]
      | hashed data' => exact absurd same (canonical_linear_ne_hashed value data')
    | hashed data =>
      cases counter' with
      | linear value' => exact absurd same.symm (canonical_linear_ne_hashed value' data)
      | hashed data' => rw [Octets.ext (Text.Base64.encode_inj.1 same)]
  · rintro rfl
    rfl

end Counter

/-! ## Cutting at the separators -/

namespace Request

/-- The pieces of a text between its separators. -/
def pieces (text : String) : List (List Char) := text.toList.splitOn '&'

variable {r r' : Request} {nonce nonce' secret secret' : String} {counter counter' : Counter}

theorem pieces_inj {text text' : String} : pieces text = pieces text' ↔ text = text' := by
  constructor
  · intro same
    have joined := congrArg (List.intercalate ['&']) same
    rw [pieces, pieces, List.intercalate_splitOn, List.intercalate_splitOn] at joined
    exact String.toList_inj.1 joined
  · rintro rfl
    rfl

/-- Parts without separators are pieces, whatever the last part is made of. -/
theorem pieces_joined (fields : List String) (clean : ∀ field ∈ fields, '&' ∉ field.toList)
    (last : String) :
    pieces (joined (fields ++ [last])) = fields.map String.toList ++ pieces last := by
  induction fields with
  | nil => simp [joined]
  | cons field fields ih =>
    have first : '&' ∉ field.toList := clean field List.mem_cons_self
    have rest := ih fun other h => clean other (List.mem_cons_of_mem _ h)
    have shape : (joined (field :: (fields ++ [last]))).toList
        = field.toList ++ '&' :: (joined (fields ++ [last])).toList := by
      unfold joined
      rw [String.intercalate_cons_of_ne_nil (by simp)]
      simp
    unfold pieces at rest ⊢
    rw [List.cons_append, shape, List.splitOn, List.splitOnP_append_cons_of_forall_mem]
    · rw [← List.splitOn, rest]
      rfl
    · intro c hc
      simp only [beq_eq_false_iff_ne]
      rintro rfl
      exact first hc
    · simp

theorem separator_notMem_method (valid : r.validate = .ok ()) : '&' ∉ r.method.toList := by
  have clean : ∀ method ∈ methods, '&' ∉ method.toList := by decide
  unfold validate at valid
  split at valid
  · cases valid
  · next known => exact clean _ (Classical.not_not.1 known)

theorem pieces_onlineText (valid : r.validate = .ok ()) (clean : '&' ∉ nonce.toList) :
    pieces (r.onlineText nonce counter secret)
      = [r.method, Text.Base64.encode (Bytes.ofText r.uri), nonce,
          Text.Base64.encode (sha256 r.body).bytes, counter.canonical].map String.toList
        ++ pieces secret := by
  refine pieces_joined [_, _, _, _, _] ?_ secret
  simp only [List.forall_mem_cons]
  exact ⟨separator_notMem_method valid, Text.Base64.separator_notMem_encode _, clean,
    Text.Base64.separator_notMem_encode _, counter.separator_notMem_canonical, by simp⟩

theorem pieces_offlineText (valid : r.validate = .ok ()) (clean : '&' ∉ nonce.toList) :
    pieces (r.offlineText nonce)
      = [r.method, Text.Base64.encode (Bytes.ofText r.uri), nonce,
          Text.Base64.encode r.body].map String.toList ++ pieces offlineSecret := by
  refine pieces_joined [_, _, _, _] ?_ offlineSecret
  simp only [List.forall_mem_cons]
  exact ⟨separator_notMem_method valid, Text.Base64.separator_notMem_encode _, clean,
    Text.Base64.separator_notMem_encode _, by simp⟩

/-- **What is signed can be read off the signed octets.** Online, for every application secret, these
are the method, the address, the nonce, the digest of the body, the counter with its kind, and the
secret. Offline they are the method, the address, the nonce and the whole body. No octets are signed in
both ways. -/
theorem fields_of_text :
    (∀ (r r' : Request) (nonce nonce' : Octets 16) (counter counter' : Counter)
        (secret secret' : String),
      r.validate = .ok () → r'.validate = .ok () →
      (Bytes.ofText (r.onlineText (Text.Base64.encode nonce.bytes) counter secret)
          = Bytes.ofText (r'.onlineText (Text.Base64.encode nonce'.bytes) counter' secret')
        ↔ r.method = r'.method ∧ r.uri = r'.uri ∧ nonce = nonce' ∧ sha256 r.body = sha256 r'.body
          ∧ counter = counter' ∧ secret = secret'))
    ∧ (∀ (r r' : Request) (nonce nonce' : String) (octets octets' : Octets 16),
      r.validate = .ok () → r'.validate = .ok () →
      Text.Base64.decodeOctets 16 nonce = .ok octets →
      Text.Base64.decodeOctets 16 nonce' = .ok octets' →
      (Bytes.ofText (r.offlineText nonce) = Bytes.ofText (r'.offlineText nonce')
        ↔ r.method = r'.method ∧ r.uri = r'.uri ∧ nonce = nonce' ∧ r.body = r'.body))
    ∧ ∀ (r r' : Request) (nonce octets : Octets 16) (offlineNonce : String) (counter : Counter)
        (secret : String),
      r.validate = .ok () → r'.validate = .ok () →
      Text.Base64.decodeOctets 16 offlineNonce = .ok octets →
      Bytes.ofText (r.onlineText (Text.Base64.encode nonce.bytes) counter secret)
        ≠ Bytes.ofText (r'.offlineText offlineNonce) := by
  have encoded (nonce : Octets 16) := Text.Base64.separator_notMem_encode nonce.bytes
  have decodable {nonce : String} {octets : Octets 16}
      (h : Text.Base64.decodeOctets 16 nonce = .ok octets) : '&' ∉ nonce.toList :=
    Text.Base64.separator_notMem_of_decode? (Text.Base64.decode?_of_decodeOctets h)
  have digest_inj {body body' : Bytes} :
      (sha256 body).bytes = (sha256 body').bytes ↔ sha256 body = sha256 body' :=
    ⟨Octets.ext, congrArg _⟩
  have nonce_inj {nonce nonce' : Octets 16} : nonce.bytes = nonce'.bytes ↔ nonce = nonce' :=
    ⟨Octets.ext, congrArg _⟩
  refine ⟨?_, ?_, ?_⟩
  · intro r r' nonce nonce' counter counter' secret secret' valid valid'
    rw [Bytes.ofText_inj, ← pieces_inj, pieces_onlineText valid (encoded nonce),
      pieces_onlineText valid' (encoded nonce')]
    simp [String.toList_inj, Text.Base64.encode_inj, Bytes.ofText_inj, Counter.canonical_inj,
      digest_inj, nonce_inj, pieces_inj]
  · intro r r' nonce nonce' octets octets' valid valid' read read'
    rw [Bytes.ofText_inj, ← pieces_inj, pieces_offlineText valid (decodable read),
      pieces_offlineText valid' (decodable read')]
    simp [String.toList_inj, Text.Base64.encode_inj, Bytes.ofText_inj]
  · intro r r' nonce octets offlineNonce counter secret valid valid' read same
    rw [Bytes.ofText_inj, ← pieces_inj, pieces_onlineText valid (encoded nonce),
      pieces_offlineText valid' (decodable read)] at same
    -- Five pieces stand before the secret, and four before the word that is written offline.
    have lengths := congrArg List.length same
    have word : (pieces offlineSecret).length = 1 := by decide
    have some : (pieces secret).length ≠ 0 := by
      simp [pieces, List.splitOn_ne_nil]
    simp only [List.length_append, List.length_map, List.length_cons, List.length_nil] at lengths
    omega

/-- Requests that differ in one part only, the secrets in what stands around a separator. -/
theorem fields_of_transfer :
    ∃ (online offline offline' : Request) (nonce : Octets 16),
      Bytes.ofText (online.onlineText (Text.Base64.encode nonce.bytes) (.linear 1) "2&s")
        ≠ Bytes.ofText (online.onlineText (Text.Base64.encode nonce.bytes) (.linear 1) "2")
      ∧ Bytes.ofText (offline.offlineText (Text.Base64.encode nonce.bytes))
        ≠ Bytes.ofText (offline'.offlineText (Text.Base64.encode nonce.bytes))
      ∧ Bytes.ofText (online.onlineText (Text.Base64.encode nonce.bytes) (.linear 1) "offline")
        ≠ Bytes.ofText (offline.offlineText (Text.Base64.encode nonce.bytes)) := by
  let online : Request := ⟨"POST", "/transfer", [5], none⟩
  let offline : Request := ⟨"GET", "/transfer", [5], none⟩
  let offline' : Request := ⟨"GET", "/transfer", [5, 0], none⟩
  have valid : online.validate = .ok () := rfl
  have valid' : offline.validate = .ok () := rfl
  have valid'' : offline'.validate = .ok () := rfl
  let nonce : Octets 16 := Octets.zero
  have read := Text.Base64.decodeOctets_encode nonce
  refine ⟨online, offline, offline', nonce, ?_, ?_, ?_⟩
  · intro same
    obtain ⟨-, -, -, -, -, secret⟩ := (fields_of_text.1 _ _ _ _ _ _ _ _ valid valid).1 same
    exact absurd secret (by decide)
  · intro same
    obtain ⟨-, -, -, body⟩ := (fields_of_text.2.1 _ _ _ _ _ _ valid' valid'' read read).1 same
    exact absurd body (by decide)
  · exact fields_of_text.2.2 _ _ _ _ _ _ _ valid valid' read

end Request

end DeviceAuth
