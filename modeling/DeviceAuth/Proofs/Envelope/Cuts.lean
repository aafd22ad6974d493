import DeviceAuth.Proofs.Envelope.Legs

/-!
# Where a body ends

The tag of a message covers the body and then the second information, and nothing marks the border
between them. Blocks at the end of a body can be handed over to the second information: the tag stays
the same. What is left is opened if it ends the way filled-up data does, so the plaintext decides.
`Cryptogram.CutFrom` is a message that was made so from a longer one.

`Cryptogram.border_of_tag` says that this is all that can happen. Messages whose tags are made over one
string have the same body and the same second information, or one of them was cut from the other; and
every message whose plaintext begins with filled-up data can be cut. Second informations of one length,
as both scopes of a session use them, are kept apart.
-/

set_option autoImplicit false

namespace DeviceAuth

open Envelope

/-! ## What is opened -/

namespace Envelope

variable {k k' : SealingKeys} {ephemeral ephemeral' info2 info2' plaintext plaintext' moved : Bytes}
  {c c' : Cryptogram}

/-- A body is longer than another one by whole blocks. -/
theorem length_moved_of_contents (opened : contents k ephemeral info2 c = .ok plaintext)
    (opened' : contents k' ephemeral' info2' c' = .ok plaintext') (longer : c'.body = c.body ++ moved) :
    moved.length % 16 = 0 := by
  have body := (form_of_contents opened).2.1
  have body' := (form_of_contents opened').2.1
  rw [longer, List.length_append] at body'
  omega

/-- The plaintext of a longer body begins with the filled-up plaintext of the shorter one. -/
theorem begins_of_contents (opened : contents k ephemeral info2 c = .ok plaintext)
    (opened' : contents k ephemeral' info2' c' = .ok plaintext') (longer : c'.body = c.body ++ moved)
    (some : moved ≠ []) : ∃ rest, plaintext' = Cbc.filled plaintext ++ rest := by
  have pos := List.length_pos_of_ne_nil some
  have blocks := length_moved_of_contents opened opened' longer
  obtain ⟨-, iv, text, cut, decrypted⟩ := contents_eq_ok_iff.1 opened
  obtain ⟨-, iv', text', cut', decrypted'⟩ := contents_eq_ok_iff.1 opened'
  obtain ⟨-, whole, plain⟩ := Cbc.decrypt_eq_ok_iff.1 decrypted
  obtain ⟨-, -, plain'⟩ := Cbc.decrypt_eq_ok_iff.1 decrypted'
  rw [cut, cut', List.append_assoc] at longer
  obtain ⟨vector, rfl⟩ := List.append_inj longer (iv'.length_eq.trans iv.length_eq.symm)
  obtain rfl : iv' = iv := Octets.ext vector
  obtain ⟨more, split, length⟩ := Cbc.decryptWhole_append k.encryption iv' moved whole
  rw [plain, plain'] at split
  -- One block or more was added, and no more than one block fills the longer plaintext up.
  have shorter : (Cbc.filled plaintext).length ≤ plaintext'.length := by
    have total := congrArg List.length split
    rw [List.length_append, Cbc.length_filled] at total
    omega
  have first : Cbc.filled plaintext <+: Cbc.filled plaintext' := ⟨more, split.symm⟩
  have own : plaintext' <+: Cbc.filled plaintext' := List.prefix_append _ _
  obtain ⟨rest, begins⟩ := List.prefix_of_prefix_length_le first own shorter
  exact ⟨rest, begins.symm⟩

/-- A body whose plaintext begins with filled-up data ends there just as well. -/
theorem exists_cut {rest : Bytes}
    (opened : contents k ephemeral info2 c = .ok (Cbc.filled plaintext ++ rest)) :
    ∃ body moved, c.body = body ++ moved ∧ moved ≠ []
      ∧ contents k ephemeral (moved ++ info2) ⟨c.key, body, c.mac⟩ = .ok plaintext := by
  obtain ⟨mac, iv, text, cut, opens⟩ := contents_eq_ok_iff.1 opened
  obtain ⟨some, whole, plain⟩ := Cbc.decrypt_eq_ok_iff.1 opens
  have length : (Cbc.decryptWhole k.encryption iv text).length = text.length :=
    Cbc.length_decryptWhole whole
  rw [plain, Cbc.length_filled, List.length_append, Cbc.length_filled] at length
  let count := (Cbc.filled plaintext).length
  have blocks : count = 16 * (plaintext.length / 16 + 1) := Cbc.length_filled plaintext
  have front : (text.take count).length = count := by
    rw [List.length_take]
    omega
  have aligned : (text.take count).length % 16 = 0 := by omega
  refine ⟨iv.bytes ++ text.take count, text.drop count, ?_, ?_, ?_⟩
  · rw [cut, List.append_assoc, List.take_append_drop]
  · intro none
    have := congrArg List.length none
    rw [List.length_drop, List.length_nil] at this
    omega
  · refine contents_eq_ok_iff.2
      ⟨?_, iv, text.take count, rfl, Cbc.decrypt_eq_ok_iff.2 ⟨?_, aligned, ?_⟩⟩
    · rw [mac, cut]
      simp only [tag, authenticated, List.append_assoc]
      rw [← List.append_assoc (text.take count), List.take_append_drop]
    · intro none
      rw [none, List.length_nil] at front
      omega
    · obtain ⟨more, split, -⟩ := Cbc.decryptWhole_append k.encryption iv (text.drop count) aligned
      rw [List.take_append_drop, plain] at split
      have own : (Cbc.decryptWhole k.encryption iv (text.take count)).length = count := by
        rw [Cbc.length_decryptWhole aligned, front]
      have decrypted : Cbc.decryptWhole k.encryption iv (text.take count)
          <+: Cbc.filled (Cbc.filled plaintext ++ rest) := ⟨more, split.symm⟩
      have first : Cbc.filled plaintext <+: Cbc.filled (Cbc.filled plaintext ++ rest) :=
        (List.prefix_append _ rest).trans (List.prefix_append _ _)
      exact (List.prefix_of_prefix_length_le decrypted first own.le).eq_of_length own

end Envelope

namespace Cryptogram

/-! ## Messages cut from messages -/

/-- A message is opened on this leg with these keys and this second information. -/
def Opened (c : Cryptogram) (k : SealingKeys) (info2 plaintext : Bytes) : Leg → Prop
  | .request => ∃ (d d' : Decryptor) (a a' : Ambient),
      (Decryptor.decryptRequest c).Gives d a plaintext d' a' ∧ d.info2 = info2 ∧ d'.keys = some k
  | .response => ∃ (e : Encryptor) (a a' : Ambient),
      (e.decryptResponse c).Gives a plaintext a' ∧ e.info2 = info2 ∧ e.keys = some k

/-- A message that lacks the last blocks of a longer one. They stand before the longer one's second
information instead, and the plaintext that is left was filled up within the longer plaintext. -/
def CutFrom (c : Cryptogram) (info2 plaintext : Bytes) (longer : Cryptogram)
    (longerInfo2 longerPlaintext : Bytes) : Prop :=
  ∃ moved rest, moved ≠ [] ∧ moved.length % 16 = 0 ∧ longer.body = c.body ++ moved
    ∧ info2 = moved ++ longerInfo2 ∧ longerPlaintext = Cbc.filled plaintext ++ rest

variable {c c' : Cryptogram} {k k' : SealingKeys} {info2 info2' plaintext plaintext' : Bytes}
  {leg : Leg}

theorem ephemeral_congr (key : c.key = c'.key) (leg : Leg) : c.ephemeral leg = c'.ephemeral leg := by
  cases leg with
  | request => exact congrArg (fun sent : Option Bytes => sent.getD []) key
  | response => rfl

theorem Opened.contents (h : c.Opened k info2 plaintext leg) :
    contents k (c.ephemeral leg) info2 c = .ok plaintext := by
  cases leg with
  | request =>
    obtain ⟨d, d', a, a', opened, rfl, keys⟩ := h
    obtain ⟨k', -, read, rfl, -⟩ := Decryptor.gives_decryptRequest.1 opened
    obtain rfl := Option.some.inj keys
    exact read
  | response =>
    obtain ⟨e, a, a', opened, rfl, keys⟩ := h
    obtain ⟨k', keys', read, -⟩ := Encryptor.gives_decryptResponse.1 opened
    obtain rfl := Option.some.inj (keys.symm.trans keys')
    exact read

/-- Whoever opens a message opens every other one with its key that these keys read. -/
theorem Opened.of_contents (h : c.Opened k info2 plaintext leg) (key : c'.key = c.key)
    (read : Envelope.contents k (c'.ephemeral leg) info2' c' = .ok plaintext') :
    c'.Opened k info2' plaintext' leg := by
  cases leg with
  | request =>
    obtain ⟨d, d', a, a', opened, -, keys⟩ := h
    obtain ⟨k', found, -, rfl, -⟩ := Decryptor.gives_decryptRequest.1 opened
    obtain rfl := Option.some.inj keys
    have same : requestKeys d.pair d.info1 c' = some k' := by
      unfold requestKeys at found ⊢
      rw [key]
      exact found
    refine ⟨d.withInfo2 info2', { d.withInfo2 info2' with keys := some k' }, a, a, ?_, rfl, rfl⟩
    exact Decryptor.gives_decryptRequest.2 ⟨k', same, read, rfl, rfl⟩
  | response =>
    obtain ⟨e, a, a', opened, -, keys⟩ := h
    exact ⟨e.withInfo2 info2', a, a, Encryptor.gives_decryptResponse.2 ⟨k, keys, read, rfl⟩, rfl, keys⟩

/-- What is sealed with the keys of an ephemeral pair and a server is opened by the server. -/
theorem opened_sealed (server pair : KeyPair) (iv : Octets 16) (info1 info2 plaintext : Bytes) :
    Opened (sealed (keys (server.sharedSecret pair.publicKey) info1) (some pair.publicKey.bytes) iv
      info2 plaintext) (keys (server.sharedSecret pair.publicKey) info1) info2 plaintext .request := by
  let k := keys (server.sharedSecret pair.publicKey) info1
  let d : Decryptor := ⟨server, info1, info2, none⟩
  have found : requestKeys server info1 (sealed k (some pair.publicKey.bytes) iv info2 plaintext)
      = some k :=
    requestKeys_eq_some_iff.2 ⟨_, pair.publicKey, rfl, pair.publicKey.ofBytes_bytes, rfl⟩
  have read := contents_sealed k (some pair.publicKey.bytes) iv info2 plaintext
  exact ⟨d, { d with keys := some k }, ⟨⟨[], 0⟩, 0, []⟩, ⟨⟨[], 0⟩, 0, []⟩,
    Decryptor.gives_decryptRequest.2 ⟨k, found, read, rfl, rfl⟩, rfl, rfl⟩

/-- One string under two tags is cut at one place, or at two that are whole blocks apart. -/
theorem Opened.border (h : c.Opened k info2 plaintext leg) (h' : c'.Opened k' info2' plaintext' leg)
    (key : c.ephemeral leg = c'.ephemeral leg)
    (same : authenticated (c.ephemeral leg) c.body info2
      = authenticated (c'.ephemeral leg) c'.body info2') :
    (info2 = info2' ∧ c.body = c'.body)
    ∨ ∃ moved, moved ≠ [] ∧ moved.length % 16 = 0
      ∧ ((c'.body = c.body ++ moved ∧ info2 = moved ++ info2')
        ∨ (c.body = c'.body ++ moved ∧ info2' = moved ++ info2)) := by
  have strings : c.body ++ info2 = c'.body ++ info2' := by
    rw [authenticated, authenticated, key, List.append_assoc, List.append_assoc] at same
    exact List.append_cancel_left same
  rcases List.append_eq_append_iff.1 strings with ⟨moved, body, info⟩ | ⟨moved, body, info⟩
  · by_cases none : moved = []
    · subst none
      exact .inl ⟨info, by rw [body, List.append_nil]⟩
    · have blocks := length_moved_of_contents h.contents h'.contents body
      exact .inr ⟨moved, none, blocks, .inl ⟨body, info⟩⟩
  · by_cases none : moved = []
    · subst none
      exact .inl ⟨info.symm, by rw [body, List.append_nil]⟩
    · have blocks := length_moved_of_contents h'.contents h.contents body
      exact .inr ⟨moved, none, blocks, .inr ⟨body, info⟩⟩

/-- **A message is cut** where the filled-up data ends that its plaintext begins with. -/
theorem Opened.exists_cutFrom {longer : Cryptogram} {rest : Bytes}
    (opened : longer.Opened k info2 (Cbc.filled plaintext ++ rest) leg) :
    ∃ (c : Cryptogram) (info2' : Bytes), c.Opened k info2' plaintext leg
      ∧ c.key = longer.key ∧ c.mac = longer.mac
      ∧ authenticated (c.ephemeral leg) c.body info2'
        = authenticated (longer.ephemeral leg) longer.body info2
      ∧ c.CutFrom info2' plaintext longer info2 (Cbc.filled plaintext ++ rest) := by
  obtain ⟨body, moved, cut, some, read⟩ := exists_cut opened.contents
  let c : Cryptogram := ⟨longer.key, body, longer.mac⟩
  have key : c.ephemeral leg = longer.ephemeral leg := ephemeral_congr rfl leg
  have opens : c.Opened k (moved ++ info2) plaintext leg := by
    refine opened.of_contents rfl ?_
    rw [key]
    exact read
  have blocks := length_moved_of_contents opens.contents opened.contents cut
  refine ⟨c, moved ++ info2, opens, rfl, rfl, ?_, moved, rest, some, blocks, cut, rfl, rfl⟩
  rw [key, cut]
  simp only [authenticated, List.append_assoc, c]

/-- **What the tag says about the border.** Let the tags of two messages, opened with the same keys on
the same leg, be made over the same string. Then they have the same second information and the same
body, or one of them was cut from the other. Whoever opens them, there is no cut between second
informations of the same length, or of lengths that are not whole blocks apart. And there is a cut in
every message whose plaintext begins with filled-up data. -/
theorem border_of_tag :
    (∀ (c c' : Cryptogram) (k : SealingKeys) (info2 info2' plaintext plaintext' : Bytes) (leg : Leg),
      c.Opened k info2 plaintext leg → c'.Opened k info2' plaintext' leg →
      c.ephemeral leg = c'.ephemeral leg →
      authenticated (c.ephemeral leg) c.body info2 = authenticated (c'.ephemeral leg) c'.body info2' →
      (info2 = info2' ∧ c.body = c'.body) ∨ c.CutFrom info2 plaintext c' info2' plaintext'
        ∨ c'.CutFrom info2' plaintext' c info2 plaintext)
    ∧ (∀ (c c' : Cryptogram) (k k' : SealingKeys) (info2 info2' plaintext plaintext' : Bytes) (leg : Leg),
      c.Opened k info2 plaintext leg → c'.Opened k' info2' plaintext' leg →
      c.ephemeral leg = c'.ephemeral leg →
      authenticated (c.ephemeral leg) c.body info2 = authenticated (c'.ephemeral leg) c'.body info2' →
      info2.length = info2'.length ∨ info2.length % 16 ≠ info2'.length % 16 →
      info2 = info2' ∧ c.body = c'.body)
    ∧ ∀ (longer : Cryptogram) (k : SealingKeys) (info2 plaintext rest : Bytes) (leg : Leg),
      longer.Opened k info2 (Cbc.filled plaintext ++ rest) leg →
      ∃ (c : Cryptogram) (info2' : Bytes), c.Opened k info2' plaintext leg
        ∧ c.key = longer.key ∧ c.mac = longer.mac
        ∧ authenticated (c.ephemeral leg) c.body info2'
          = authenticated (longer.ephemeral leg) longer.body info2
        ∧ c.CutFrom info2' plaintext longer info2 (Cbc.filled plaintext ++ rest) := by
  refine ⟨?_, ?_, ?_⟩
  · intro c c' k info2 info2' plaintext plaintext' leg opened opened' key same
    rcases opened.border opened' key same with equal | ⟨moved, some, blocks, cut | cut⟩
    · exact .inl equal
    · obtain ⟨body, info⟩ := cut
      obtain ⟨rest, begins⟩ := begins_of_contents opened.contents opened'.contents body some
      exact .inr (.inl ⟨moved, rest, some, blocks, body, info, begins⟩)
    · obtain ⟨body, info⟩ := cut
      obtain ⟨rest, begins⟩ := begins_of_contents opened'.contents opened.contents body some
      exact .inr (.inr ⟨moved, rest, some, blocks, body, info, begins⟩)
  · intro c c' k k' info2 info2' plaintext plaintext' leg opened opened' key same lengths
    rcases opened.border opened' key same with equal | ⟨moved, some, blocks, cut⟩
    · exact equal
    · have pos := List.length_pos_of_ne_nil some
      rcases cut with ⟨-, rfl⟩ | ⟨-, rfl⟩
      · rw [List.length_append] at lengths
        omega
      · rw [List.length_append] at lengths
        omega
  · intro longer k info2 plaintext rest leg opened
    exact opened.exists_cutFrom

/-- A message that begins with a filled-up block, the one cut from it, and one sealed under a second
information of another length, whose tag is made over another string. -/
theorem border_of_unit :
    ∃ (k : SealingKeys) (c longer odd : Cryptogram) (info2 : Bytes),
      longer.Opened k [] (Cbc.filled [] ++ [9]) .request ∧ c.Opened k info2 [] .request
      ∧ (c.CutFrom info2 [] longer [] (Cbc.filled [] ++ [9])
        ∨ longer.CutFrom [] (Cbc.filled [] ++ [9]) c info2 [])
      ∧ odd.Opened k [7] [] .request
      ∧ authenticated (odd.ephemeral .request) odd.body [7]
        ≠ authenticated (longer.ephemeral .request) longer.body [] := by
  have opened := opened_sealed .unit .unit Octets.zero [] [] (Cbc.filled [] ++ [9])
  have other := opened_sealed .unit .unit Octets.zero [] [7] []
  obtain ⟨c, info2, opens, key, -, same, cut⟩ := border_of_tag.2.2 _ _ [] [] [9] .request opened
  have keys := ephemeral_congr key .request
  refine ⟨_, c, _, _, info2, opened, opens, ?_, other, ?_⟩
  · rcases border_of_tag.1 _ _ _ _ _ _ _ .request opens opened keys same with ⟨none, -⟩ | cuts
    · obtain ⟨moved, -, some, -, -, info, -⟩ := cut
      rw [none, List.append_nil] at info
      exact absurd info.symm some
    · exact cuts
  · intro equal
    have lengths : ([7] : Bytes).length = ([] : Bytes).length
        ∨ ([7] : Bytes).length % 16 ≠ ([] : Bytes).length % 16 := by decide
    obtain ⟨none, -⟩ := border_of_tag.2.1 _ _ _ _ _ _ _ _ .request other opened rfl equal lengths
    cases none

/-- The tag alone does not tell where a body ends: with the last block of a message moved into the
second information, the rest is opened under the same tag. -/
theorem border_not_told :
    ¬∀ (k : SealingKeys) (c c' : Cryptogram) (info2 info2' plaintext plaintext' : Bytes) (leg : Leg),
      c.Opened k info2 plaintext leg → c'.Opened k info2' plaintext' leg →
      c.ephemeral leg = c'.ephemeral leg → c.mac = c'.mac →
      authenticated (c.ephemeral leg) c.body info2 = authenticated (c'.ephemeral leg) c'.body info2' →
      info2 = info2' ∧ c.body = c'.body := by
  intro told
  let k := keys (KeyPair.unit.sharedSecret KeyPair.unit.publicKey) []
  let order := Bytes.ofText "transfer 5 to B"
  let longer := sealed k (some KeyPair.unit.publicKey.bytes) Octets.zero [] (Cbc.filled order)
  have sealed : longer.Opened k [] (Cbc.filled order) .request := opened_sealed .unit .unit _ [] [] _
  have opened : longer.Opened k [] (Cbc.filled order ++ []) .request := by
    rw [List.append_nil]
    exact sealed
  obtain ⟨c, info2, opens, key, mac, same, moved, rest, some, -, -, info, -⟩ := opened.exists_cutFrom
  obtain ⟨none, -⟩ :=
    told k c longer _ _ _ _ .request opens opened (ephemeral_congr key .request) mac same
  rw [info, List.append_nil] at none
  exact some none

end Cryptogram

end DeviceAuth
