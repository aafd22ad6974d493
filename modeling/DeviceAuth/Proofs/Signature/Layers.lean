import Mathlib.Data.List.Forall2
import DeviceAuth.Proofs.Bytes
import DeviceAuth.Proofs.Signature
import DeviceAuth.Proofs.Text.Canonical

/-!
# Keys in layers

Every component of a signature has a key of its own, and `Signature.LayeredKey` says how it comes
about without a fold: the first layer is the component's own key, and every further one is the next of
the keys after the first. `Signature.Layered` lists the digests under such keys, and there is one such
list (`layered_iff`).

A layer only looks at the keys up to the component's own, so that the components of the first few keys
are the first few components (`components_take`). `Signature.Shows` reads a signature back into what it
has of its digests: whoever knows fewer keys computes the beginning of the text.
-/

set_option autoImplicit false

namespace DeviceAuth.Signature

variable {keys : List SymmetricKey} {counter : Counter} {version : ProtocolVersion}
  {salt nonce data : Bytes} {own : SymmetricKey} {parts : List (Octets 32)}

/-! ## Layers -/

/-- The key of a component after some layers: its own key, and then the keys after the first, in
order. -/
inductive LayeredKey (keys : List SymmetricKey) (salt : Bytes) (own : SymmetricKey) :
    Nat → Octets 32 → Prop
  | own : LayeredKey keys salt own 0 (hmac own.bytes salt)
  | layer {j : Nat} {key : Octets 32} {next : SymmetricKey} (below : LayeredKey keys salt own j key)
    (found : keys[j + 1]? = some next) :
    LayeredKey keys salt own (j + 1) (hmac (hmac next.bytes salt).bytes key.bytes)

theorem componentKey_concat (layers : List SymmetricKey) (next : SymmetricKey) :
    componentKey salt own (layers ++ [next])
      = hmac (hmac next.bytes salt).bytes (componentKey salt own layers).bytes := by
  unfold componentKey
  rw [List.foldl_append]
  rfl

/-- There are as many layers as there are keys for them, and they make one key. -/
theorem layeredKey_iff {j : Nat} {key : Octets 32} (h : j < keys.length) :
    LayeredKey keys salt own j key ↔ key = componentKey salt own ((keys.drop 1).take j) := by
  induction j generalizing key with
  | zero =>
    constructor
    · rintro ⟨⟩
      rfl
    · rintro rfl
      exact .own
  | succ j ih =>
    have short : j < (keys.drop 1).length := by
      rw [List.length_drop]
      omega
    have next : keys[j + 1]? = some (keys.drop 1)[j] := by
      rw [List.getElem_drop, Nat.add_comm, List.getElem?_eq_getElem]
    have layers : (keys.drop 1).take (j + 1) = (keys.drop 1).take j ++ [(keys.drop 1)[j]] :=
      (List.take_append_getElem short).symm
    rw [layers, componentKey_concat]
    constructor
    · rintro ⟨⟩
      next below found =>
        rw [← (ih (by omega)).1 below, Option.some.inj (found.symm.trans next)]
    · rintro rfl
      exact .layer ((ih (by omega)).2 rfl) next

/-- The digests of some data under the keys of all components. -/
def Layered (keys : List SymmetricKey) (salt data : Bytes) (parts : List (Octets 32)) : Prop :=
  parts.length = keys.length ∧ ∀ (i : Nat) (part : Octets 32), parts[i]? = some part →
    ∃ own key, keys[i]? = some own ∧ LayeredKey keys salt own i key ∧ part = hmac key.bytes data

theorem getElem?_components (i : Nat) :
    (components keys salt data)[i]? = keys[i]?.map fun own =>
      hmac (componentKey salt own ((keys.drop 1).take i)).bytes data := by
  unfold components
  rw [List.getElem?_map, List.getElem?_zipIdx, Option.map_map, Nat.zero_add]
  rfl

/-- **The components are the digests under keys in layers**, and nothing else is. -/
theorem layered_iff : Layered keys salt data parts ↔ parts = components keys salt data := by
  have digest : ∀ {i own}, keys[i]? = some own → ∀ part,
      (∃ key, LayeredKey keys salt own i key ∧ part = hmac key.bytes data)
        ↔ (components keys salt data)[i]? = some part := by
    intro i own found part
    rw [getElem?_components, found, Option.map_some, Option.some_inj]
    simp only [layeredKey_iff (List.getElem?_eq_some_iff.1 found).1, exists_eq_left]
    exact eq_comm
  constructor
  · rintro ⟨length, made⟩
    refine List.ext_getElem? fun i => ?_
    cases at_i : parts[i]? with
    | none =>
      rw [List.getElem?_eq_none_iff, length, ← length_components keys salt data] at at_i
      exact (List.getElem?_eq_none_iff.2 at_i).symm
    | some part =>
      obtain ⟨own, key, found, layers, rfl⟩ := made i part at_i
      exact ((digest found _).1 ⟨key, layers, rfl⟩).symm
  · rintro rfl
    refine ⟨length_components keys salt data, fun i part at_i => ?_⟩
    cases found : keys[i]? with
    | none =>
      rw [getElem?_components, found] at at_i
      cases at_i
    | some own =>
      obtain ⟨key, layers, rfl⟩ := (digest found part).2 at_i
      exact ⟨own, key, rfl, layers, rfl⟩

/-- **The components of the first keys are the first components.** -/
theorem components_take (m : Nat) :
    components (keys.take m) salt data = (components keys salt data).take m := by
  refine List.ext_getElem? fun i => ?_
  rw [getElem?_components, List.getElem?_take, List.getElem?_take]
  split
  · next before =>
    rw [getElem?_components, List.drop_take, List.take_take, Nat.min_eq_left (by omega)]
  · rfl

/-! ## Reading a signature back -/

/-- A text shows some digests: in Base64 the second half of each, in decimal a group of eight digits
for the number at the end of each. -/
def Shows : Format → List (Octets 32) → String → Prop
  | .base64, parts, text => ∃ octets, Text.Base64.decode? text = some octets
    ∧ octets.length = 16 * parts.length ∧ octets = parts.flatMap fun part => part.bytes.drop 16
  | .decimal, parts, text => ∃ groups, text = "-".intercalate groups
    ∧ List.Forall₂ (fun part group => Text.IsGroup group
      ∧ Nat.ofDigitChars 10 group.toList 0
        = Bytes.ofBigEndian (part.bytes.drop 28) % 2 ^ 31 % 10 ^ 8) parts groups

theorem ofDigitChars_paddedDigits (width n : Nat) :
    Nat.ofDigitChars 10 (Text.paddedDigits width n) 0 = n := by
  have zeros : ∀ count, Nat.ofDigitChars 10 (List.replicate count '0') 0 = 0 := by
    intro count
    induction count with
    | zero => rfl
    | succ count ih => exact ih
  unfold Text.paddedDigits
  dsimp only
  rw [Nat.ofDigitChars_append, zeros, Nat.ofDigitChars_ten_toDigits]

/-- **A rendered signature shows its digests**, whatever they are. -/
theorem shows_render (format : Format) (parts : List (Octets 32)) :
    Shows format parts (render format parts) := by
  cases format with
  | base64 =>
    have halves : (parts.flatMap fun part => (part.back 16 16).bytes)
        = parts.flatMap fun part => part.bytes.drop 16 := rfl
    have length := Cbc.length_joined (parts.map fun part => part.back 16 16)
    rw [Cbc.joined, List.flatMap_map, List.length_map] at length
    exact ⟨_, Text.Base64.decode?_encode _, length, halves⟩
  | decimal =>
    refine ⟨_, rfl, List.forall₂_map_right_iff.2 (List.forall₂_same.2 fun part _ => ?_)⟩
    refine ⟨Text.isGroup_shortDigits part, ?_⟩
    rw [String.toList_ofList]
    exact ofDigitChars_paddedDigits _ _

/-! ## The whole signature -/

theorem checkCount_of_not (h : ¬ (1 ≤ keys.length ∧ keys.length ≤ 3)) :
    checkCount keys = .error (.wrongParameter .factorKeyCount) := if_neg h

/-- The signature of the first keys, of every number of them. -/
theorem shows_counted {format : Format} {m : Nat} :
    Shows format ((components keys salt data).take m)
      (render format (components (keys.take m) salt data)) := by
  rw [components_take]
  exact shows_render format _

theorem compute_of_not_counted (same : counter.version = version)
    (h : ¬ (1 ≤ keys.length ∧ keys.length ≤ 3)) :
    compute keys counter version data = .error (.wrongParameter .factorKeyCount) := by
  unfold compute
  rw [if_neg (not_not.2 same), checkCount_of_not h]
  rfl

theorem computeOffline_of_not_counted (size : nonce.length = Request.nonceSize)
    (h : ¬ (1 ≤ keys.length ∧ keys.length ≤ 3)) :
    computeOffline keys nonce data = .error (.wrongParameter .factorKeyCount) := by
  unfold computeOffline
  rw [if_neg (not_not.2 size), checkCount_of_not h]
  rfl

theorem compute_of_version_ne (other : counter.version ≠ version) :
    compute keys counter version data
      = .error (.wrongState (.counterVersion counter.version version)) := by
  unfold compute
  rw [if_pos other]
  rfl

/-- A signature is verified by comparing it with the one that is made. -/
theorem verify_eq (text : String) :
    verify keys counter version data text
      = (compute keys counter version data).map fun expected => decide (text = expected) := by
  unfold verify
  cases compute keys counter version data with
  | error failure => rfl
  | ok expected =>
    refine congrArg Except.ok (Bool.eq_iff_iff.2 ?_)
    rw [Bytes.matching_iff, decide_eq_true_iff, Bytes.ofText_inj]
    exact eq_comm

/-- **A signature is made in layers.** Some digests are shown by a rendered text as they are, whatever
they are: sixteen octets each in Base64, eight digits each in groups. With one to three keys an online
signature under a counter of the version, and an offline signature under a nonce of sixteen octets, show
the digests under keys in layers, and the signature of the first few keys shows the first few of them.
No keys or more than three are refused, a counter of another version before that; and a signature is
verified by comparing it with the one that is made. -/
theorem made_in_layers (keys : List SymmetricKey) (counter : Counter) (version : ProtocolVersion)
    (nonce data : Bytes) :
    (∀ format parts, Shows format parts (render format parts))
      ∧ (counter.version = version → 1 ≤ keys.length → keys.length ≤ 3 →
        ∃ parts, Layered keys counter.octets.bytes data parts ∧ ∀ m, 1 ≤ m → m ≤ keys.length →
          ∃ text, compute (keys.take m) counter version data = .ok text
            ∧ (version = .v3 → Shows .base64 (parts.take m) text)
            ∧ (version = .v2 → Shows .decimal (parts.take m) text))
      ∧ (nonce.length = 16 → 1 ≤ keys.length → keys.length ≤ 3 →
        ∃ parts, Layered keys nonce data parts ∧ ∀ m, 1 ≤ m → m ≤ keys.length →
          ∃ text, computeOffline (keys.take m) nonce data = .ok text
            ∧ Shows .decimal (parts.take m) text)
      ∧ (keys.length = 0 ∨ 3 < keys.length →
        (counter.version = version →
          compute keys counter version data = .error (.wrongParameter .factorKeyCount))
        ∧ (nonce.length = 16 →
          computeOffline keys nonce data = .error (.wrongParameter .factorKeyCount)))
      ∧ (counter.version ≠ version → compute keys counter version data
          = .error (.wrongState (.counterVersion counter.version version)))
      ∧ (∀ expected, compute keys counter version data = .ok expected → ∀ text,
          verify keys counter version data text = .ok (decide (text = expected)))
      ∧ ∀ failure text, verify keys counter version data text = .error failure ↔
          compute keys counter version data = .error failure := by
  have counted : ∀ {m}, 1 ≤ m → m ≤ keys.length → keys.length ≤ 3 →
      1 ≤ (keys.take m).length ∧ (keys.take m).length ≤ 3 := by
    intro m pos le few
    rw [List.length_take]
    omega
  refine ⟨shows_render, ?online, ?offline, ?number, ?other, ?verified, ?failed⟩
  case online =>
    intro same _ few
    refine ⟨_, layered_iff.2 rfl, fun m pos le =>
      ⟨_, compute_eq_ok_iff.2 ⟨same, counted pos le few, rfl⟩, ?_, ?_⟩⟩
    · rintro rfl
      exact shows_counted
    · rintro rfl
      exact shows_counted
  case offline =>
    intro size _ few
    exact ⟨_, layered_iff.2 rfl, fun m pos le =>
      ⟨_, computeOffline_eq_ok_iff.2 ⟨size, counted pos le few, rfl⟩, shows_counted⟩⟩
  case number =>
    intro number
    have refused : ¬ (1 ≤ keys.length ∧ keys.length ≤ 3) := by omega
    exact ⟨fun same => compute_of_not_counted same refused,
      fun size => computeOffline_of_not_counted size refused⟩
  case other => exact compute_of_version_ne
  case verified =>
    intro expected made text
    rw [verify_eq, made]
    rfl
  case failed =>
    intro failure text
    rw [verify_eq]
    cases compute keys counter version data with
    | error other => exact ⟨fun h => congrArg _ (Except.error.inj h),
        fun h => congrArg _ (Except.error.inj h)⟩
    | ok expected => exact ⟨nofun, nofun⟩

/-- Two keys sign in two layers: under a linear counter, and offline under a nonce of zeros. No key is
not enough, and the counter is of no other version. -/
theorem made_in_two_layers :
    (∃ parts, Layered [.ofWord 1, .ofWord 2] (Counter.linear 7).octets.bytes [] parts
      ∧ ∀ m, 1 ≤ m → m ≤ 2 →
        ∃ text, compute ([Octets.ofWord 1, Octets.ofWord 2].take m) (.linear 7) .v2 [] = .ok text
          ∧ Shows .decimal (parts.take m) text)
    ∧ (∃ parts, Layered [.ofWord 1, .ofWord 2] (List.replicate 16 0) [] parts
      ∧ ∀ m, 1 ≤ m → m ≤ 2 →
        ∃ text, computeOffline ([Octets.ofWord 1, Octets.ofWord 2].take m) (List.replicate 16 0) []
            = .ok text
          ∧ Shows .decimal (parts.take m) text)
    ∧ compute [] (.linear 7) .v2 [] = .error (.wrongParameter .factorKeyCount)
    ∧ compute [] (.linear 7) .v3 [] = .error (.wrongState (.counterVersion .v2 .v3))
    ∧ ∀ expected, compute [.ofWord 1, .ofWord 2] (.linear 7) .v2 [] = .ok expected →
      verify [.ofWord 1, .ofWord 2] (.linear 7) .v2 [] expected = .ok true := by
  obtain ⟨-, online, offline, -, -, verified, -⟩ := made_in_layers [Octets.ofWord 1, Octets.ofWord 2]
    (.linear 7) .v2 (List.replicate 16 0) []
  obtain ⟨-, -, -, refused, -⟩ := made_in_layers [] (.linear 7) .v2 [] []
  obtain ⟨-, -, -, -, other, -⟩ := made_in_layers [] (.linear 7) .v3 [] []
  refine ⟨?_, offline rfl (by decide) (by decide), (refused (.inl rfl)).1 rfl, other (by decide),
    fun expected made => ?_⟩
  · obtain ⟨parts, layered, first⟩ := online rfl (by decide) (by decide)
    refine ⟨parts, layered, fun m pos le => ?_⟩
    obtain ⟨text, made, -, shows⟩ := first m pos le
    exact ⟨text, made, shows rfl⟩
  · rw [verified expected made, decide_eq_true rfl]

end DeviceAuth.Signature
