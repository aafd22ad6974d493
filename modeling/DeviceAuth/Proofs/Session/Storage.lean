import DeviceAuth.Proofs.Curve.Key
import DeviceAuth.Proofs.Record.Canonical
import DeviceAuth.Proofs.Session.Atomicity

/-!
# Storing and restoring

An application stores the octets of a session and hands them to a session of its next run. What comes
back is the stage of the first session, in the setup of the second: `Session.deserialize_serialize`.
Handing over anything else is harmless, since octets are taken for a state only where a state was
written (`Session.deserialize_canonical`), and what is refused changes nothing. Lengths are written in
eight octets; `Stored.Fits` says of a state that all of its lengths fit, which is so of any state that
has been in a memory.

A session never changes its setup or the keys in it. `Session.Opened` says that these keys are the
ones `Setup.validate` finds, which holds from `Session.create` on; it is what makes two sessions of one
setup the same session once their stages are equal.
-/

set_option autoImplicit false

namespace DeviceAuth

variable {s s' : Session} {a a' : Ambient}

/-! ## Setups -/

theorem Setup.gives_decodeMaster {text : String} {key : PublicKey} :
    (decodeMaster text).Gives a key a' ↔
      (∃ bytes, Text.Base64.decode text = .ok bytes ∧ PublicKey.ofBytes bytes = .ok key) ∧ a' = a := by
  unfold decodeMaster
  cases Text.Base64.decode text with
  | error why => simp
  | ok bytes =>
    cases found : PublicKey.ofBytes bytes with
    | error why => simp [found]
    | ok point => simp [found, eq_comm]

/-- A setup has one pair of keys, whatever surrounds the check. -/
theorem Setup.keys_unique {setup : Setup} {keys others : SetupKeys} {b b' : Ambient}
    (h : setup.validate.Gives a keys a') (k : setup.validate.Gives b others b') :
    keys = others := by
  unfold validate at h k
  simp [gives_decodeMaster] at h k
  obtain ⟨-, master, ⟨bytes, decoded, point⟩, external, ⟨outside, -⟩, rfl⟩ := h
  obtain ⟨-, master', ⟨bytes', decoded', point'⟩, external', ⟨outside', -⟩, rfl⟩ := k
  obtain rfl := Except.ok.inj (decoded.symm.trans decoded')
  obtain rfl := Except.ok.inj (point.symm.trans point')
  obtain rfl := Except.ok.inj (outside.symm.trans outside')
  rfl

namespace Session

/-- The keys of a session are those of its setup. Every session that was created and then used in
whatever way is of this kind (`opened_of_create`, `opened_after`). -/
def Opened (s : Session) : Prop :=
  ∃ a a', s.setup.validate.Gives a ⟨s.masterKey, s.external⟩ a'

theorem opened_of_create {setup : Setup} (h : (create setup).Gives a s a') : s.Opened := by
  unfold create at h
  simp at h
  obtain ⟨⟨master, external⟩, _, valid, -, rfl⟩ := h
  exact ⟨a, _, valid⟩

theorem setup_of_create {setup : Setup} (created : (create setup).Gives a s a') : s.setup = setup := by
  unfold create at created
  simp at created
  obtain ⟨_, _, -, -, rfl⟩ := created
  rfl

theorem opened_after (opened : s.Opened) (calls : List Call) : (s.after calls).Opened := by
  have step : ∀ (s : Session) op reply s', True → s.Opened → Transition s op reply s' →
      s'.Opened := by
    intro s op reply s' _ opened moved
    -- No transition touches anything but the stage.
    cases moved <;> exact opened
  exact preserved step opened fun _ _ => True.intro

/-- The master key of a session is read from its setup. -/
theorem Opened.exists_master (opened : s.Opened) :
    ∃ bytes, Text.Base64.decode s.setup.masterKey = .ok bytes
      ∧ PublicKey.ofBytes bytes = .ok s.masterKey := by
  obtain ⟨a, a', valid⟩ := opened
  unfold Setup.validate at valid
  simp [Setup.gives_decodeMaster] at valid
  exact valid.2.1

theorem Opened.masterKey_eq {bytes : Bytes} {key : PublicKey} (opened : s.Opened)
    (encoded : Text.Base64.decode s.setup.masterKey = .ok bytes)
    (point : PublicKey.ofBytes bytes = .ok key) : s.masterKey = key := by
  obtain ⟨found, decoded, read⟩ := opened.exists_master
  obtain rfl := Except.ok.inj (encoded.symm.trans decoded)
  exact Except.ok.inj (read.symm.trans point)

/-- Sessions of one setup differ in nothing but the stage. -/
theorem Opened.eq_at {t : Session} (opened : s.Opened) (other : t.Opened)
    (setup : t.setup = s.setup) : t.at s.stage = s := by
  obtain ⟨_, _, valid⟩ := opened
  obtain ⟨_, _, valid'⟩ := other
  rw [setup] at valid'
  obtain ⟨master, external⟩ := SetupKeys.mk.inj (Setup.keys_unique valid' valid)
  show Session.mk t.setup t.masterKey t.external s.stage = s
  rw [setup, master, external]

/-! ## Stages -/

theorem stored_at_stageOf (s : Session) (stored : Stored) :
    (s.at (stageOf stored)).stored = stored := by
  cases stored <;> rfl

theorem stageOf_stored_of_settled (h : s.stage.settled = true) : stageOf s.stored = s.stage := by
  unfold stored
  cases stage : s.stage with
  | activated record => rfl
  | removed => rfl
  | _ =>
    rw [stage] at h
    cases h

theorem stageOf_stored_of_unsettled (h : s.stage.settled = false) : stageOf s.stored = .empty := by
  unfold stored
  cases stage : s.stage with
  | activated record =>
    rw [stage] at h
    cases h
  | removed =>
    rw [stage] at h
    cases h
  | _ => rfl

/-- Only a pending activation is not stored as it is. -/
theorem stageOf_stored_of_phase (first : s.phase ≠ .pendingStep1) (second : s.phase ≠ .pendingStep2) :
    stageOf s.stored = s.stage := by
  by_cases settled : s.stage.settled = true
  · exact stageOf_stored_of_settled settled
  · rw [stageOf_stored_of_unsettled (Bool.eq_false_iff.2 settled)]
    unfold phase at first second
    cases stage : s.stage with
    | empty => rfl
    | begun pair recovery =>
      rw [stage] at first
      exact absurd rfl first
    | established handshake =>
      rw [stage] at second
      exact absurd rfl second
    | _ =>
      rw [stage] at settled
      exact absurd rfl settled

/-! ## Restoring -/

theorem gives_deserialize {bytes : Bytes} {stored : Stored} (h : Stored.decode bytes = .ok stored)
    (s : Session) (a : Ambient) :
    ∃ a', (deserialize bytes).Gives s a () (s.at (stageOf stored)) a' := by
  unfold deserialize
  simp [h]

/-- Octets that begin with those of a settled session put its stage into any session. -/
theorem eq_of_gives_deserialize_append {t t' : Session} {tail : Bytes} {u : Unit}
    (settled : s.stage.settled = true) (fits : s.stored.Fits)
    (ran : (deserialize (s.serialize ++ tail)).Gives t a u t' a') : t' = t.at s.stage := by
  have written : Stored.decode (s.serialize ++ tail) = .ok s.stored :=
    Stored.decode_eq_ok_iff.2 ⟨fits, tail, rfl⟩
  cases Transition.of_deserialize ran with
  | restored decoded =>
    obtain rfl := Except.ok.inj (written.symm.trans decoded)
    rw [stageOf_stored_of_settled settled]
  | observed observes => cases observes

theorem eq_of_gives_deserialize {t t' : Session} {u : Unit} (settled : s.stage.settled = true)
    (fits : s.stored.Fits) (ran : (deserialize s.serialize).Gives t a u t' a') : t' = t.at s.stage := by
  rw [← List.append_nil s.serialize] at ran
  exact eq_of_gives_deserialize_append settled fits ran

theorem refuses_deserialize {bytes : Bytes} {why : Reason} (h : Stored.decode bytes = .error why)
    (s : Session) (a : Ambient) :
    ∃ a', (deserialize bytes).result s a = ((.error .encryption, s), a') := by
  unfold deserialize
  rw [h]
  exact ⟨_, rfl⟩

theorem validates_counting (value : UInt64) (a : Ambient) :
    (counting value).setup.validate.Gives a ⟨(counting value).masterKey, (counting value).external⟩ a := by
  have master : (Setup.decodeMaster KeyPair.unit.publicKey.base64).Gives a KeyPair.unit.publicKey a :=
    Setup.gives_decodeMaster.2
      ⟨⟨_, KeyPair.unit.publicKey.decode_base64, KeyPair.unit.publicKey.ofBytes_bytes⟩, rfl⟩
  unfold Setup.validate
  simp [counting, master, Setup.decodeExternal]

theorem opened_counting (value : UInt64) (stage : Stage) : ((counting value).at stage).Opened :=
  ⟨⟨⟨[], 7⟩, 0, []⟩, _, validates_counting value _⟩

theorem fits_counting (value : UInt64) : (counting value).stored.Fits := by
  have named : (Bytes.ofText "activation").length < 2 ^ 64 := by decide
  have nothing : ([] : Bytes).length < 2 ^ 64 := by decide
  have codes : ([] : List (Octets 32)).length < 2 ^ 64 := by decide
  have point : KeyPair.unit.publicKey.bytes.length < 2 ^ 64 := by
    rw [PublicKey.length_bytes]
    decide
  have possession : (StoredKey.enclosed .ones .ones none .zero .zero).bytes.length < 2 ^ 64 := by
    simp [StoredKey.enclosed, KeyWrap.length_enclose, Octets.length_eq]
  have biometry : ∀ stored : StoredKey, none = some stored → stored.bytes.length < 2 ^ 64 :=
    fun _ given => by cases given
  exact ⟨named, point, point, nothing, ⟨possession, nothing, biometry, nothing, nothing⟩, codes⟩

/-- **What was stored is restored.** The octets of any session are taken by every other session,
whatever its setup and its stage. It keeps its setup and the keys in it, and takes over the stage; a
pending activation comes back as none. In a session of the same setup a stage that is not pending
makes it the first session again, and every call is answered as there. -/
theorem deserialize_serialize (fits : s.stored.Fits) (t : Session) (a : Ambient) :
    ∃ t' a', (deserialize s.serialize).Gives t a () t' a'
      ∧ t'.setup = t.setup ∧ t'.masterKey = t.masterKey ∧ t'.external = t.external
      ∧ (∀ record, s.stage = .activated record → t'.stage = .activated record)
      ∧ (s.stage = .removed → t'.stage = .removed)
      ∧ (s.stage.settled = false → t'.stage = .empty)
      ∧ (s.Opened → t.Opened → t.setup = s.setup →
          s.phase ≠ .pendingStep1 → s.phase ≠ .pendingStep2 →
          t' = s ∧ ∀ calls, t'.history calls = s.history calls) := by
  obtain ⟨a', gives⟩ := gives_deserialize (Stored.decode_encode fits) t a
  refine ⟨_, a', gives, rfl, rfl, rfl, ?_, ?_, ?_, ?_⟩
  · intro record activated
    have settled : s.stage.settled = true := by rw [activated, Stage.settled]
    exact (stageOf_stored_of_settled settled).trans activated
  · intro removed
    have settled : s.stage.settled = true := by rw [removed, Stage.settled]
    exact (stageOf_stored_of_settled settled).trans removed
  · intro unsettled
    exact stageOf_stored_of_unsettled unsettled
  · intro opened other setup first second
    have same : t.at (stageOf s.stored) = s := by
      rw [stageOf_stored_of_phase first second]
      exact opened.eq_at other setup
    exact ⟨same, fun calls => by rw [same]⟩

/-- A fresh session that is handed the octets of an activation of its setup goes on in its place. -/
theorem restores_counting :
    let s := counting 5
    let fresh := s.at .empty
    ∃ a', (deserialize s.serialize).Gives fresh ⟨⟨[], 7⟩, 0, []⟩ () s a'
      ∧ s.stored.Fits ∧ s.Opened ∧ fresh.Opened := by
  intro s fresh
  have opened : s.Opened := opened_counting 5 s.stage
  have other : fresh.Opened := opened_counting 5 .empty
  obtain ⟨t, a', gives, -, -, -, -, -, -, same⟩ :=
    deserialize_serialize (fits_counting 5) fresh ⟨⟨[], 7⟩, 0, []⟩
  obtain ⟨rfl, -⟩ := same opened other rfl nofun nofun
  exact ⟨a', gives, fits_counting 5, opened, other⟩

/-- **Octets are taken for a state exactly where one was written.** Any octets are either refused,
with a cryptographic failure and the session as it was, or they begin with the octets of the session
they lead to. Whatever begins with the octets of a session is taken, whatever follows, and leads to
what was stored of that session; and no octets begin with those of two. -/
theorem deserialize_canonical (s : Session) (bytes : Bytes) (a : Ambient) :
    ((∃ a', (deserialize bytes).result s a = ((.error .encryption, s), a'))
      ∨ ∃ s' a' tail, (deserialize bytes).Gives s a () s' a' ∧ s'.stored.Fits
        ∧ bytes = s'.serialize ++ tail)
    ∧ (∀ (r : Session) tail, r.stored.Fits → bytes = r.serialize ++ tail →
        ∃ s' a', (deserialize bytes).Gives s a () s' a' ∧ s'.stage = stageOf r.stored
          ∧ s'.serialize = r.serialize)
    ∧ ∀ (r r' : Session) tail tail', r.stored.Fits → r'.stored.Fits →
        bytes = r.serialize ++ tail → bytes = r'.serialize ++ tail' →
        r.serialize = r'.serialize ∧ tail = tail' := by
  refine ⟨?_, ?_, ?_⟩
  · cases decoded : Stored.decode bytes with
    | error why => exact Or.inl (refuses_deserialize decoded s a)
    | ok stored =>
      obtain ⟨a', gives⟩ := gives_deserialize decoded s a
      obtain ⟨fits, tail, written⟩ := Stored.decode_eq_ok_iff.1 decoded
      refine Or.inr ⟨_, a', tail, gives, ?_, ?_⟩
      · rw [stored_at_stageOf]
        exact fits
      · rw [serialize, stored_at_stageOf]
        exact written
  · intro r tail fits written
    obtain ⟨a', gives⟩ :=
      gives_deserialize (Stored.decode_eq_ok_iff.2 ⟨fits, tail, written⟩) s a
    refine ⟨_, a', gives, rfl, ?_⟩
    rw [serialize, stored_at_stageOf, serialize]
  · intro r r' tail tail' fits fits' written written'
    obtain ⟨same, rest⟩ := Stored.encode_append_inj fits fits' (written.symm.trans written')
    exact ⟨congrArg Stored.encode same, rest⟩

/-- The octets of an activation are taken with two more at their end. -/
theorem takes_counting :
    let s := counting 5
    let fresh := s.at .empty
    s.stored.Fits ∧ ∃ s' a', (deserialize (s.serialize ++ [1, 2])).Gives fresh ⟨⟨[], 7⟩, 0, []⟩ () s' a'
      ∧ s'.stage = s.stage ∧ s'.serialize = s.serialize := by
  intro s fresh
  obtain ⟨-, taken, -⟩ :=
    deserialize_canonical fresh (s.serialize ++ [1, 2]) ⟨⟨[], 7⟩, 0, []⟩
  exact ⟨fits_counting 5, taken s [1, 2] (fits_counting 5) rfl⟩

end Session

end DeviceAuth
