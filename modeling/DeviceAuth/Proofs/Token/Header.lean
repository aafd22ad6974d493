import DeviceAuth.Proofs.Effects
import DeviceAuth.Proofs.Text.Radix
import DeviceAuth.Token

/-!
# What a token's header says

A header is one line of quoted parts. Nothing escapes the identifier a server chose for a token, so it
may contain quotes, and even what looks like another part. The parts after it are Base64 or a number:
they contain no quote, and the line is read from its end.

`Header.Shows` is that reading. It finds the same parts however it is done (`Header.Shows.unique`),
and in a header made with a token's data they are the ones that fit together (`Header.shows_headerFor`).
Whether a handle makes a header at all is asked in two places, in different order; `Token.gives_header`
shows that they agree.
-/

set_option autoImplicit false

namespace DeviceAuth

/-! ## The parts of a header -/

namespace Header

/-- The parts of a header that differ from one to the next. -/
structure Parts where
  identifier : String
  digest : String
  nonce : String
  timestamp : String

/-- A header can be read as these parts. -/
structure Shows (header : Header) (parts : Parts) : Prop where
  name : header.name = Token.headerName
  value : header.value = "PowerAuth token_id=\"" ++ parts.identifier ++ "\", token_digest=\""
    ++ parts.digest ++ "\", nonce=\"" ++ parts.nonce ++ "\", timestamp=\"" ++ parts.timestamp
    ++ "\", version=\"" ++ Token.version ++ "\""
  digest : '"' ∉ parts.digest.toList
  nonce : '"' ∉ parts.nonce.toList
  timestamp : '"' ∉ parts.timestamp.toList

/-- The last quote of a text is where it is. -/
theorem append_quote_inj {before before' text text' : List Char} (clean : '"' ∉ text)
    (clean' : '"' ∉ text') :
    before ++ '"' :: text = before' ++ '"' :: text' ↔ before = before' ∧ text = text' := by
  constructor
  · intro same
    rcases List.append_eq_append_iff.1 same with ⟨gap, rfl, rest⟩ | ⟨gap, rfl, rest⟩
    · cases gap with
      | nil => exact ⟨by simp, by simpa using rest⟩
      | cons c gap => exact absurd (by simp [(List.cons.inj rest).2]) clean
    · cases gap with
      | nil => exact ⟨by simp, by simpa using rest.symm⟩
      | cons c gap => exact absurd (by simp [(List.cons.inj rest).2]) clean'
  · rintro ⟨rfl, rfl⟩
    rfl

/-- A part without quotes after a label that ends in one. -/
theorem part_inj (label : String) {before before' text text' : String} (clean : '"' ∉ text.toList)
    (clean' : '"' ∉ text'.toList)
    (same : before ++ (label ++ "\"") ++ text = before' ++ (label ++ "\"") ++ text') :
    before = before' ∧ text = text' := by
  have spelled (x y : String) :
      (x ++ (label ++ "\"") ++ y).toList = (x.toList ++ label.toList) ++ '"' :: y.toList := by
    simp
  have letters := congrArg String.toList same
  rw [spelled, spelled] at letters
  obtain ⟨front, rest⟩ := (append_quote_inj clean clean').1 letters
  exact ⟨String.toList_inj.1 (List.append_cancel_right front), String.toList_inj.1 rest⟩

/-- A header is read in one way only. -/
theorem Shows.unique {header : Header} {parts parts' : Parts} (h : header.Shows parts)
    (h' : header.Shows parts') : parts = parts' := by
  obtain ⟨-, value, digest, nonce, timestamp⟩ := h
  obtain ⟨-, value', digest', nonce', timestamp'⟩ := h'
  have same := value.symm.trans value'
  rw [String.append_left_inj, String.append_left_inj, String.append_left_inj] at same
  obtain ⟨same, timestamps⟩ := part_inj "\", timestamp=" timestamp timestamp' same
  obtain ⟨same, nonces⟩ := part_inj "\", nonce=" nonce nonce' same
  obtain ⟨same, digests⟩ := part_inj "\", token_digest=" digest digest' same
  have identifiers := String.append_right_inj _ |>.1 same
  cases parts
  cases parts'
  cases identifiers
  cases digests
  cases nonces
  cases timestamps
  rfl

theorem quote_notMem_encode (bytes : Bytes) : '"' ∉ (Text.Base64.encode bytes).toList := by
  intro inside
  have apart : '"' ∉ Text.Base64.alphabet.symbols ∧ '"' ≠ '=' := by decide
  rcases Text.Base64.mem_of_decode? (Text.Base64.decode?_encode bytes) inside with symbol | padding
  · exact apart.1 symbol
  · exact apart.2 padding

theorem quote_notMem_digits (n : Nat) : '"' ∉ n.repr.toList := by
  intro inside
  rw [← Nat.toString_eq_repr, Nat.toString_eq_ofList_toDigits, String.toList_ofList] at inside
  exact absurd (Nat.isDigit_of_mem_toDigits (by decide) (by decide) inside) (by decide)

theorem quote_notMem_toString (time : Int) : '"' ∉ (toString time).toList := by
  cases time with
  | ofNat n => exact quote_notMem_digits n
  | negSucc n =>
    show '"' ∉ ("-" ++ (n + 1).repr).toList
    rw [String.toList_append, List.mem_append]
    rintro (sign | digits)
    · exact absurd sign (by decide)
    · exact quote_notMem_digits (n + 1) digits

/-- A header made with a nonce and a time shows both, and the digest of both. -/
theorem shows_headerFor (data : TokenData) (nonce : Bytes) (time : Int) :
    (Token.headerFor data nonce time).Shows
      ⟨data.identifier, Text.Base64.encode (Token.digest data nonce (toString time)).bytes,
        Text.Base64.encode nonce, toString time⟩ :=
  ⟨rfl, rfl, quote_notMem_encode _, quote_notMem_encode _, quote_notMem_toString time⟩

end Header

namespace Header

/-- A header proves, to whoever knows the data of a token, that it was made with that data: its digest is
that of its own nonce and its own time. -/
structure Proves (header : Header) (data : TokenData) (drawn : Octets 16) (time : Int) (parts : Parts) :
    Prop where
  shows : header.Shows parts
  unique : ∀ other, header.Shows other → other = parts
  identifier : parts.identifier = data.identifier
  nonce : Text.Base64.decode? parts.nonce = some drawn.bytes
  timestamp : parts.timestamp = toString time
  digest : parts.digest = Text.Base64.encode
    (hmac data.secret (drawn.bytes ++ Bytes.ofText "&" ++ Bytes.ofText parts.timestamp)).bytes

theorem proves_headerFor (data : TokenData) (nonce : Octets 16) (time : Int) :
    ∃ parts, (Token.headerFor data nonce.bytes time).Proves data nonce time parts := by
  have shown := shows_headerFor data nonce.bytes time
  exact ⟨_, shown, fun other h => h.unique shown, rfl, Text.Base64.decode?_encode _, rfl, rfl⟩

end Header

/-! ## When a header is made -/

namespace Token

variable {token : Token} {all : TokenStores} {a a' : Ambient} {header : Header}

theorem canMakeHeader_iff :
    token.canMakeHeader all = true ↔
      token.data.isValid = true ∧ ∃ store, all.get? token.store = some store ∧ store.available = true := by
  unfold canMakeHeader
  cases all.get? token.store <;> simp

/-- A header is made exactly when it is said that one can be, whatever surrounds the core. -/
theorem gives_header :
    (token.header all).Gives a header a' ↔
      token.canMakeHeader all = true
        ∧ header = headerFor token.data (a.entropy.draw 16).1.bytes a.clock
        ∧ a' = { a with entropy := (a.entropy.draw 16).2 } := by
  rw [canMakeHeader_iff]
  unfold Token.header
  cases all.get? token.store with
  | none => simp
  | some store =>
    cases ready : store.available <;> cases token.data.isValid <;> simp [ready, and_comm]

end Token

end DeviceAuth
