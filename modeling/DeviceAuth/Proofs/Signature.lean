import Mathlib.Data.Nat.Digits.Defs
import DeviceAuth.Proofs.Cipher.Cbc
import DeviceAuth.Proofs.Effects
import DeviceAuth.Proofs.Text.Radix
import DeviceAuth.Signature

/-!
# What a signature looks like

A signature has a component for every key it is made with. `Signature.HasComponents` says what they look
like as a text: blocks of sixteen octets in one Base64 text, or groups of eight digits with hyphens
between them. Whatever the keyed digests are, the text has as many components as there are keys
(`hasComponents_render`), and it cannot be taken for one of another number of them
(`hasComponents_iff`).
-/

set_option autoImplicit false

namespace DeviceAuth

/-! ## Groups of digits -/

namespace Text

/-- A group of eight digits. -/
def IsGroup (text : String) : Prop := text.length = 8 ∧ ∀ c ∈ text.toList, c.isDigit = true

theorem length_paddedDigits {width n : Nat} (pos : 0 < width) (small : n < 10 ^ width) :
    (paddedDigits width n).length = width := by
  have fits := (Nat.length_toDigits_le_iff (by decide : 1 < 10) pos).2 small
  unfold paddedDigits
  simp only [List.length_append, List.length_replicate]
  omega

theorem isGroup_shortDigits (digest : Octets 32) : IsGroup (String.ofList (shortDigits digest)) := by
  constructor
  · rw [String.length_ofList]
    exact length_paddedDigits (by decide) (Nat.mod_lt _ (by decide))
  · intro c hc
    rw [String.toList_ofList] at hc
    rcases List.mem_append.1 hc with zero | digit
    · rw [List.eq_of_mem_replicate zero]
      decide
    · exact Nat.isDigit_of_mem_toDigits (by decide) (by decide) digit

/-- Groups with hyphens between them are as long as they are many. -/
theorem length_intercalate_groups {groups : List String} (h : ∀ group ∈ groups, IsGroup group) :
    ("-".intercalate groups).length = 9 * groups.length - 1 := by
  induction groups with
  | nil => rfl
  | cons group groups ih =>
    obtain ⟨length, -⟩ := h group List.mem_cons_self
    have rest := ih fun g hg => h g (List.mem_cons_of_mem _ hg)
    cases groups with
    | nil => simpa using length
    | cons next groups =>
      rw [String.intercalate_cons_of_ne_nil (by simp), String.length_append, String.length_append,
        length, rest]
      simp only [List.length_cons]
      have hyphen : "-".length = 1 := rfl
      omega

end Text

/-! ## Components -/

namespace Signature

/-- A text has this many components of a format. -/
def HasComponents (format : Format) (count : Nat) (text : String) : Prop :=
  match format with
  | .base64 => ∃ parts : List (Octets 16), parts.length = count
    ∧ text = Text.Base64.encode (parts.flatMap Octets.bytes)
  | .decimal => ∃ groups : List String, groups.length = count ∧ (∀ group ∈ groups, Text.IsGroup group)
    ∧ text = "-".intercalate groups

variable {keys : List SymmetricKey} {counter : Counter} {version : ProtocolVersion}
  {nonce data : Bytes} {format : Format} {text : String} {count : Nat}

/-- A text has one number of components. -/
theorem HasComponents.unique {count' : Nat} (h : HasComponents format count text)
    (h' : HasComponents format count' text) : count' = count := by
  cases format with
  | base64 =>
    obtain ⟨parts, rfl, rfl⟩ := h
    obtain ⟨parts', rfl, same⟩ := h'
    have length : (Cbc.joined parts).length = (Cbc.joined parts').length :=
      congrArg List.length (Text.Base64.encode_inj.1 same)
    rw [Cbc.length_joined, Cbc.length_joined] at length
    omega
  | decimal =>
    obtain ⟨groups, rfl, shape, rfl⟩ := h
    obtain ⟨groups', rfl, shape', same⟩ := h'
    have length := congrArg String.length same
    rw [Text.length_intercalate_groups shape, Text.length_intercalate_groups shape'] at length
    omega

theorem hasComponents_render (format : Format) (parts : List (Octets 32)) :
    HasComponents format parts.length (render format parts) := by
  cases format with
  | base64 =>
    refine ⟨parts.map fun part => part.back 16 16, by rw [List.length_map], ?_⟩
    rw [List.flatMap_map]
    rfl
  | decimal =>
    refine ⟨_, by rw [List.length_map], fun group hg => ?_, rfl⟩
    obtain ⟨part, -, rfl⟩ := List.mem_map.1 hg
    exact Text.isGroup_shortDigits part

@[simp] theorem length_components (keys : List SymmetricKey) (counter data : Bytes) :
    (components keys counter data).length = keys.length := by
  unfold components
  rw [List.length_map, List.length_zipIdx]

/-- The components of some keys are as many as the keys, and no other number. -/
theorem hasComponents_iff (format : Format) (keys : List SymmetricKey) (counter data : Bytes) :
    HasComponents format count (render format (components keys counter data)) ↔ count = keys.length := by
  have made := hasComponents_render format (components keys counter data)
  rw [length_components] at made
  constructor
  · exact made.unique
  · rintro rfl
    exact made

/-! ## Making a signature -/

theorem checkCount_eq_ok_iff {u : Unit} :
    checkCount keys = .ok u ↔ 1 ≤ keys.length ∧ keys.length ≤ 3 := by
  unfold checkCount
  split
  · next count => exact ⟨fun _ => count, fun _ => rfl⟩
  · next count => exact ⟨nofun, fun h => absurd h count⟩

theorem counted_eq_ok_iff {salt : Bytes} :
    (do checkCount keys; return render format (components keys salt data) : Except Failure String)
        = .ok text ↔
      (1 ≤ keys.length ∧ keys.length ≤ 3) ∧ text = render format (components keys salt data) := by
  constructor
  · intro h
    obtain ⟨_, count, h⟩ := except_bind_eq_ok_iff.1 h
    exact ⟨checkCount_eq_ok_iff.1 count, (Except.ok.inj h).symm⟩
  · rintro ⟨count, rfl⟩
    exact except_bind_eq_ok_iff.2 ⟨(), checkCount_eq_ok_iff.2 count, rfl⟩

/-- **When an online signature is made**: of a counter of the version, with one to three keys. -/
theorem compute_eq_ok_iff :
    compute keys counter version data = .ok text ↔
      counter.version = version ∧ (1 ≤ keys.length ∧ keys.length ≤ 3)
        ∧ text = render (Signature.format version) (components keys counter.octets.bytes data) := by
  unfold compute
  by_cases same : counter.version = version
  · rw [if_neg (not_not.2 same)]
    exact counted_eq_ok_iff.trans (and_iff_right same).symm
  · rw [if_pos same]
    exact ⟨nofun, fun h => absurd h.1 same⟩

/-- **When an offline signature is made**: of a nonce of sixteen octets, with one to three keys. -/
theorem computeOffline_eq_ok_iff :
    computeOffline keys nonce data = .ok text ↔
      nonce.length = Request.nonceSize ∧ (1 ≤ keys.length ∧ keys.length ≤ 3)
        ∧ text = render .decimal (components keys nonce data) := by
  unfold computeOffline
  by_cases size : nonce.length = Request.nonceSize
  · rw [if_neg (not_not.2 size)]
    exact counted_eq_ok_iff.trans (and_iff_right size).symm
  · rw [if_pos size]
    exact ⟨nofun, fun h => absurd h.1 size⟩

/-- One to three keys always sign. -/
theorem exists_compute (h : 1 ≤ keys.length ∧ keys.length ≤ 3) (counter : Counter) (data : Bytes) :
    ∃ value, compute keys counter counter.version data = .ok value :=
  ⟨_, compute_eq_ok_iff.2 ⟨rfl, h, rfl⟩⟩

theorem exists_computeOffline (h : 1 ≤ keys.length ∧ keys.length ≤ 3) (nonce : Octets 16)
    (data : Bytes) : ∃ value, computeOffline keys nonce.bytes data = .ok value :=
  ⟨_, computeOffline_eq_ok_iff.2 ⟨nonce.length_eq, h, rfl⟩⟩

end Signature

end DeviceAuth
