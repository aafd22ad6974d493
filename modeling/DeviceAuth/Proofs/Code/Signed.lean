import DeviceAuth.Proofs.Code.Typing
import DeviceAuth.Proofs.Curve.Ecdsa
import DeviceAuth.Proofs.Session.Handshake
import DeviceAuth.Proofs.Session.Storage
import DeviceAuth.Proofs.Text.Base64

/-!
# Codes with a signature

A scanned text is a code with its signature after a hash sign. Neither part can contain the sign: a code
is shown in symbols and dashes, and Base64 has none. So the first sign in a text is the only place to
divide it, and a text has at most one reading (`gives_parse_iff`).

An activation takes a code whether it was read from a text or put together by hand. It decodes the
signature anew and verifies it over the octets of the code alone. Both ways in agree on what a code is.
They differ in what they ask of a signature: a text only has to have the form, and an empty one, which
no text can carry, is as bad as any other that does not verify.
-/

set_option autoImplicit false

namespace DeviceAuth

open Text

namespace ActivationCode

variable {code : ActivationCode} {signature : Option String} {key : PublicKey}

/-- The text of a code: the code itself, and its signature after a hash sign. -/
def written (code : ActivationCode) : String :=
  match code.signature with
  | none => code.code
  | some signature => code.code ++ "#" ++ signature

/-- A signature as a text can carry it is Base64 of at least one octet. -/
def IsCarried (signature : Option String) : Prop :=
  ∀ text, signature = some text → text ≠ "" ∧ Base64.Canonical text.toList

/-- A code as a text can give it. -/
structure IsScannable (code : ActivationCode) : Prop where
  /-- It spells octets with their checksum. -/
  spells : ∃ random, Code.Spells code.code random
  signature : IsCarried code.signature

/-- A signature is Base64 of octets that a key verifies over the code; a code without one will do. -/
def IsSignedBy (code : ActivationCode) (key : PublicKey) : Prop :=
  ∀ signature, code.signature = some signature →
    ∃ octets, signature = Base64.encode octets
      ∧ Ecdsa.verifies key (Bytes.ofText code.code) octets = true

/-! ## Dividing a text -/

/-- The code that a text would give. -/
def divided (text : String) : ActivationCode := ⟨(split text).1, (split text).2⟩

/-- Nothing is lost where a text is divided. -/
theorem written_divided (text : String) : (divided text).written = text := by
  have whole := List.takeWhile_append_dropWhile (p := (· ≠ '#')) (l := text.toList)
  unfold divided split
  rw [List.span_eq_takeWhile_dropWhile]
  cases rest : text.toList.dropWhile (· ≠ '#') with
  | nil => rfl
  | cons sign signature =>
    obtain rfl : sign = '#' := by
      have first := List.head?_dropWhile_not (· ≠ '#') text.toList
      rw [rest] at first
      simpa using first
    rw [rest] at whole
    rw [← String.toList_inj]
    simpa [written] using whole

/-- A code without the sign is found again. -/
theorem divided_written (h : '#' ∉ code.code.toList) : divided code.written = code := by
  obtain ⟨own, signature⟩ := code
  have kept : ∀ c ∈ own.toList, decide (c ≠ '#') = true := by
    intro c member
    rw [decide_eq_true_iff]
    rintro rfl
    exact h member
  unfold divided split
  rw [List.span_eq_takeWhile_dropWhile]
  cases signature with
  | none =>
    have nothing : own.toList.dropWhile (· ≠ '#') = [] := by
      rw [← List.append_nil own.toList, List.dropWhile_append_of_pos kept, List.dropWhile_nil]
    simp only [written, nothing]
  | some signature =>
    have divided : (own ++ "#" ++ signature).toList = own.toList ++ '#' :: signature.toList := by
      simp
    simp only [written, divided, List.takeWhile_append_of_pos kept, List.dropWhile_append_of_pos kept]
    simp

/-! ## Reading a text -/

theorem spells_iff (code : ActivationCode) :
    (∃ random, Code.Spells code.code random) ↔ Code.isActivation code.code = true := by
  simp only [Code.spells_iff, Code.isActivation_iff]

theorem gives_checkSignature (carried : IsCarried signature) (a : Ambient) :
    (checkSignature signature).Gives a () a := by
  cases signature with
  | none => exact Core.gives_pure.2 ⟨rfl, rfl⟩
  | some text =>
    obtain ⟨some, form⟩ := carried text rfl
    obtain ⟨octets, decoded⟩ := Option.isSome_iff_exists.1 (Base64.isSome_decode?_iff.2 form)
    unfold checkSignature
    simp [some, decoded]

theorem result_checkSignature (other : ¬ IsCarried signature) (a : Ambient) :
    ∃ a', (checkSignature signature).result a
      = (.error (.wrongParameter .codeSignatureEncoding), a') := by
  cases signature with
  | none => exact absurd nofun other
  | some text =>
    unfold checkSignature
    dsimp only
    split
    · exact ⟨_, rfl⟩
    · next some =>
      split
      · exact ⟨_, rfl⟩
      · next decoded =>
        rw [Option.isNone_iff_eq_none, ← Ne, ← Option.isSome_iff_ne_none,
          Base64.isSome_decode?_iff] at decoded
        refine absurd ?_ other
        rintro _ ⟨⟩
        exact ⟨by simpa using some, decoded⟩

theorem gives_parse (text : String) (scannable : (divided text).IsScannable) (a : Ambient) :
    ∃ a', (parse text).Gives a (divided text) a' := by
  obtain ⟨a', checked⟩ := Code.gives_checkActivation (split text).1 a
  have spelled : Code.isActivation (split text).1 = true := (spells_iff (divided text)).1 scannable.spells
  rw [spelled] at checked
  refine ⟨a', ?_⟩
  unfold parse
  rw [Core.gives_bind]
  refine ⟨(), a, gives_checkSignature scannable.signature a, ?_⟩
  rw [Core.gives_bind]
  exact ⟨true, a', checked, rfl⟩

/-- A text that divides into anything else is refused as an argument, whichever part of it is wrong. -/
theorem result_parse {text : String} (other : ¬ (divided text).IsScannable) (a : Ambient) :
    ∃ why a', (parse text).result a = (.error (.wrongParameter why), a') := by
  unfold parse
  by_cases carried : IsCarried (split text).2
  · obtain ⟨a', checked⟩ := Code.gives_checkActivation (split text).1 a
    have unspelled : Code.isActivation (split text).1 = false := by
      rw [← Bool.not_eq_true]
      intro spelled
      exact other ⟨(spells_iff (divided text)).2 spelled, carried⟩
    rw [unspelled] at checked
    refine ⟨.activationCode, a', ?_⟩
    rw [Core.result_bind, gives_checkSignature carried a]
    dsimp only
    rw [Core.result_bind, checked]
    rfl
  · obtain ⟨a', refused⟩ := result_checkSignature carried a
    refine ⟨.codeSignatureEncoding, a', ?_⟩
    rw [Core.result_bind, refused]

/-- A code that a text can give is what its own text divides into. -/
theorem IsScannable.divided_written (scannable : code.IsScannable) : divided code.written = code := by
  refine ActivationCode.divided_written fun sign => ?_
  have shown := Code.isShown_of_isActivation ((spells_iff code).1 scannable.spells) '#' sign
  revert shown
  decide

/-- **A text is read exactly if it is a code written**, and what it gives is that code. -/
theorem gives_parse_iff (text : String) (a : Ambient) :
    (∃ a', (parse text).Gives a code a') ↔ code.IsScannable ∧ text = code.written := by
  constructor
  · rintro ⟨a', read⟩
    by_cases scannable : (divided text).IsScannable
    · obtain ⟨_, own⟩ := gives_parse _ scannable a
      obtain ⟨rfl, -⟩ := read.unique own
      exact ⟨scannable, (written_divided text).symm⟩
    · obtain ⟨why, _, refused⟩ := result_parse scannable a
      cases refused.symm.trans read
  · rintro ⟨scannable, rfl⟩
    have own := scannable.divided_written
    rw [← own] at scannable
    have read := gives_parse _ scannable a
    rwa [own] at read

/-! ## Verifying -/

theorem gives_verify (signed : code.IsSignedBy key) (a : Ambient) :
    ∃ a', (code.verify key).Gives a () a' := by
  obtain ⟨own, signature⟩ := code
  cases signature with
  | none => exact ⟨a, Core.gives_pure.2 ⟨rfl, rfl⟩⟩
  | some text =>
    obtain ⟨octets, encoded, valid⟩ := signed text rfl
    obtain ⟨a', verified⟩ := Ecdsa.gives_verify key (Bytes.ofText own) octets a
    rw [valid] at verified
    exact ⟨a', Core.gives_bind.2 ⟨octets, a,
      Core.gives_liftM_reasoned.2 ⟨Base64.decode_eq_ok_iff.2 encoded, rfl⟩,
      Core.gives_bind.2 ⟨true, a', verified, Core.gives_pure.2 ⟨rfl, rfl⟩⟩⟩⟩

theorem refuses_verify (other : ¬ code.IsSignedBy key) : (code.verify key).Refuses := by
  obtain ⟨own, signature⟩ := code
  cases signature with
  | none => exact absurd nofun other
  | some text =>
    unfold verify
    dsimp only
    cases decoded : Base64.decode text with
    | error why => exact (Core.refuses_refuse why).bind _
    | ok octets =>
      have invalid : Ecdsa.verifies key (Bytes.ofText own) octets = false := by
        rw [← Bool.not_eq_true]
        intro valid
        refine other ?_
        rintro _ ⟨⟩
        exact ⟨octets, Base64.decode_eq_ok_iff.1 decoded, valid⟩
      have verified := Ecdsa.gives_verify key (Bytes.ofText own) octets
      rw [invalid] at verified
      exact (Core.returns_reasoned.2 rfl).bind_refuses
        (Core.bind_refuses verified (Core.refuses_refuse .codeSignature))

end ActivationCode

/-! ## Beginning an activation -/

namespace Session

variable {s : Session} {code : ActivationCode}

theorem gives_checkCode (valid : Code.isActivation code.code = true) (signed : code.IsSignedBy s.masterKey)
    (a : Ambient) : ∃ a', (s.checkCode code).Gives a () a' := by
  obtain ⟨a₁, checked⟩ := Code.gives_checkActivation code.code a
  rw [valid] at checked
  obtain ⟨a', verified⟩ := ActivationCode.gives_verify signed a₁
  exact ⟨a', Core.gives_bind.2 ⟨true, a₁, checked, verified⟩⟩

/-- The code is looked at first, so that its signature does not matter if it is no code. -/
theorem result_checkCode (invalid : Code.isActivation code.code = false) (a : Ambient) :
    ∃ a', (s.checkCode code).result a = (.error (.wrongParameter .activationCode), a') := by
  obtain ⟨a', checked⟩ := Code.gives_checkActivation code.code a
  rw [invalid] at checked
  refine ⟨a', ?_⟩
  unfold checkCode
  rw [Core.result_bind, checked]
  rfl

theorem refuses_checkCode (valid : Code.isActivation code.code = true)
    (other : ¬ code.IsSignedBy s.masterKey) : (s.checkCode code).Refuses := by
  have checked := Code.gives_checkActivation code.code
  rw [valid] at checked
  exact Core.bind_refuses checked (ActivationCode.refuses_verify other)

/-- In an empty session a code is all that is checked. -/
theorem result_begin (empty : s.stage = .empty) (a : Ambient) :
    (begin (some code)).result s a = (liftM (s.checkCode code) >>= fun _ => start none :
      Change Session ActivationRequest).result s a := by
  unfold Session.begin
  rw [Change.result_object_bind, Change.result_checked_bind, requireEmpty_of_empty empty]

theorem exists_gives_begin_of_signed (empty : s.stage = .empty)
    (valid : Code.isActivation code.code = true) (signed : code.IsSignedBy s.masterKey) (a : Ambient) :
    ∃ pair a', (begin (some code)).Gives s a ⟨pair.publicKey.base64, none⟩ (s.at (.begun pair none)) a' := by
  obtain ⟨a₁, checked⟩ := gives_checkCode valid signed a
  obtain ⟨pair, starts⟩ := exists_gives_start a₁
  obtain ⟨a', started⟩ := starts s none
  refine ⟨pair, a', ?_⟩
  rw [Change.Gives, result_begin empty, Change.result_liftM_bind checked]
  exact started

theorem result_begin_of_invalid (empty : s.stage = .empty)
    (invalid : Code.isActivation code.code = false) (a : Ambient) :
    ∃ a', (begin (some code)).result s a = ((.error (.wrongParameter .activationCode), s), a') := by
  obtain ⟨a', refused⟩ := result_checkCode (s := s) invalid a
  refine ⟨a', ?_⟩
  rw [result_begin empty, Change.result_bind, Change.result_liftM, refused]

theorem refuses_begin (empty : s.stage = .empty) (valid : Code.isActivation code.code = true)
    (other : ¬ code.IsSignedBy s.masterKey) : (begin (some code)).Refuses s := by
  intro a
  rw [result_begin empty]
  exact (Change.refuses_liftM (refuses_checkCode valid other) s).bind _ a

/-- An empty session begins with a code exactly if the code is good and the key of the session verifies
its signature. -/
theorem begins_iff (empty : s.stage = .empty) (a : Ambient) :
    (∃ request s' a', (begin (some code)).Gives s a request s' a') ↔
      Code.isActivation code.code = true ∧ code.IsSignedBy s.masterKey := by
  constructor
  · rintro ⟨request, s', a', begun⟩
    have valid : Code.isActivation code.code = true := by
      rw [← Bool.not_eq_false]
      intro invalid
      obtain ⟨_, refused⟩ := result_begin_of_invalid empty invalid a
      cases refused.symm.trans begun
    refine ⟨valid, ?_⟩
    by_contra other
    obtain ⟨_, refused⟩ := refuses_begin empty valid other a
    cases refused.symm.trans begun
  · rintro ⟨valid, signed⟩
    obtain ⟨pair, a', begun⟩ := exists_gives_begin_of_signed empty valid signed a
    exact ⟨_, _, a', begun⟩

/-- Whatever was called on a session, its master key is the one of the setup it was created from. -/
theorem exists_master_of_create {created : Session} {setup : Setup} {a a' : Ambient}
    (made : (create setup).Gives a created a') (calls : List Call) :
    ∃ bytes, Base64.decode setup.masterKey = .ok bytes
      ∧ PublicKey.ofBytes bytes = .ok (created.after calls).masterKey := by
  have master := (opened_after (opened_of_create made) calls).exists_master
  have own := setup_of_create made
  have same : (created.after calls).setup = setup := by
    rw [after_eq_at created]
    exact own
  rwa [same] at master

end Session

namespace ActivationCode

/-- **What is a code to one is a code to the other.** A text is read exactly if it is a code written, with
or without a signature that is Base64 and not empty, and what is read is that code; any other text is
refused as an argument. An empty session begins with a code, read or not, exactly if it spells octets with
their checksum and its signature, if it has one, is Base64 of octets that verify over the code under the
master key, which is the one of the setup whatever was called before. What is no code is refused as an
argument whatever its signature, and a code that is not signed so for a cryptographic reason; neither
changes the session. -/
theorem read_and_begun_with :
    (∀ (text : String) (a : Ambient),
      (∀ code, (∃ a', (parse text).Gives a code a') ↔ code.IsScannable ∧ text = code.written)
      ∧ ((∀ code : ActivationCode, code.IsScannable → text ≠ code.written) →
        ∃ why a', (parse text).result a = (.error (.wrongParameter why), a')))
    ∧ (∀ (s : Session) (code : ActivationCode) (a : Ambient), s.stage = .empty →
      ((∃ request s' a', (Session.begin (some code)).Gives s a request s' a')
        ↔ (∃ random, Code.Spells code.code random) ∧ code.IsSignedBy s.masterKey)
      ∧ ((∃ random, Code.Spells code.code random) → code.IsSignedBy s.masterKey →
        ∃ pair a', (Session.begin (some code)).Gives s a ⟨pair.publicKey.base64, none⟩
          (s.at (.begun pair none)) a')
      ∧ ((¬ ∃ random, Code.Spells code.code random) →
        ∃ a', (Session.begin (some code)).result s a
          = ((.error (.wrongParameter .activationCode), s), a'))
      ∧ ((∃ random, Code.Spells code.code random) → ¬ code.IsSignedBy s.masterKey →
        (Session.begin (some code)).Refuses s))
    ∧ ∀ (setup : Setup) (created : Session) (calls : List Call) (a a' : Ambient),
      (Session.create setup).Gives a created a' →
      ∃ bytes, Base64.decode setup.masterKey = .ok bytes
        ∧ PublicKey.ofBytes bytes = .ok (created.after calls).masterKey := by
  refine ⟨fun text a => ⟨fun _ => gives_parse_iff text a, fun other => ?_⟩, ?_,
    fun _ _ calls _ _ made => Session.exists_master_of_create made calls⟩
  · exact result_parse (fun scannable => other _ scannable (written_divided text).symm) a
  · intro s code a empty
    rw [spells_iff]
    exact ⟨Session.begins_iff empty a,
      fun valid signed => Session.exists_gives_begin_of_signed empty valid signed a,
      fun invalid => Session.result_begin_of_invalid empty (Bool.not_eq_true _ ▸ invalid) a,
      Session.refuses_begin empty⟩

/-- A code that the holder of the master key signed, scanned and begun with in a session of the setup. With
an empty signature it is neither read nor begun with, for different reasons, and without a code no
signature helps. -/
theorem begun_with_signed_code :
    let a : Ambient := ⟨⟨[], 7⟩, 0, []⟩
    let s := (Session.counting 0).at .empty
    let own := "VVVVV-VVVVV-VVVVV-VTFVA"
    let signed : ActivationCode :=
      ⟨own, some (Base64.encode (Ecdsa.sign .unit (Bytes.ofText own)))⟩
    (∃ a' bytes, (Session.create s.setup).Gives a s a' ∧ Base64.decode s.setup.masterKey = .ok bytes
      ∧ PublicKey.ofBytes bytes = .ok s.masterKey)
    ∧ (∃ a', (parse signed.written).Gives a signed a')
    ∧ (∃ pair a', (Session.begin (some signed)).Gives s a ⟨pair.publicKey.base64, none⟩
      (s.at (.begun pair none)) a')
    ∧ (∃ why a', (parse (own ++ "#")).result a = (.error (.wrongParameter why), a'))
    ∧ (Session.begin (some ⟨own, some ""⟩)).Refuses s
    ∧ ∃ a', (Session.begin (some ⟨"", signed.signature⟩)).result s a
      = ((.error (.wrongParameter .activationCode), s), a') := by
  intro a s own signed
  obtain ⟨reads, begins, masters⟩ := read_and_begun_with
  have spelled : ∃ random, Code.Spells own random :=
    (spells_iff signed).2 (by decide +kernel)
  have unspelled : ¬ ∃ random, Code.Spells "" random := by
    rw [spells_iff ⟨"", none⟩]
    decide
  have verified := Ecdsa.verifies_sign .unit (Bytes.ofText own)
  have nothing : ∀ key, Ecdsa.verifies key (Bytes.ofText own) [] = false := fun _ => rfl
  have isSigned : signed.IsSignedBy s.masterKey := by
    rintro _ ⟨⟩
    exact ⟨_, rfl, verified⟩
  have unsigned : ¬ (⟨own, some ""⟩ : ActivationCode).IsSignedBy s.masterKey := by
    intro signs
    obtain ⟨octets, empty, valid⟩ := signs "" rfl
    obtain rfl : ([] : Bytes) = octets := Base64.encode_inj.1 empty
    rw [nothing] at valid
    cases valid
  have scannable : signed.IsScannable := by
    refine ⟨spelled, ?_⟩
    rintro _ ⟨⟩
    refine ⟨fun empty => ?_, Base64.canonical_iff.2 ⟨_, rfl⟩⟩
    have none : Ecdsa.sign .unit (Bytes.ofText own) = [] := Base64.encode_inj.1 empty
    rw [none, nothing] at verified
    cases verified
  have unread : ∀ code : ActivationCode, code.IsScannable → own ++ "#" ≠ code.written := by
    intro code form same
    have divides := form.divided_written
    rw [← same] at divides
    exact (form.signature "" (by rw [← divides]; decide)).1 rfl
  have created : ∃ a', (Session.create s.setup).Gives a s a' :=
    ⟨_, Core.gives_bind.2 ⟨_, _, Session.validates_counting 0 a, Core.gives_bind.2
      ⟨(), _, Core.gives_note.2 rfl, Core.gives_pure.2 ⟨rfl, rfl⟩⟩⟩⟩
  obtain ⟨a', created⟩ := created
  obtain ⟨bytes, master⟩ := masters _ _ [] a a' created
  have empty : s.stage = .empty := (Session.counting 0).at_stage .empty
  exact ⟨⟨a', bytes, created, master⟩, ((reads _ a).1 signed).2 ⟨scannable, rfl⟩,
    (begins s signed a empty).2.1 spelled isSigned, (reads _ a).2 unread,
    (begins s ⟨own, some ""⟩ a empty).2.2.2 spelled unsigned,
    (begins s ⟨"", signed.signature⟩ a empty).2.2.1 unspelled⟩

end ActivationCode

end DeviceAuth
