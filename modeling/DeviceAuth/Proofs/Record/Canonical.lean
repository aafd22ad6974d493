import DeviceAuth.Proofs.Record.Form

/-!
# Only what was written is read

The other direction of `Proofs/Record/Form`. A reader that gives a value back has taken from the
front of its string exactly what the writer writes for that value, so a form has one spelling for
each value and none for anything else: no number too many, no tag out of range, no text that is not
well-formed.

`BinaryForm.Exact P` says this of a form, and that `P` holds of every value it reads. What `P` says
is how long the value may be. A length is read from eight octets, so whatever was read has lengths
that fit into eight octets again, and `Stored.read_eq_some_iff` closes the circle: a stored state is
read where it is written, and nowhere else.
-/

set_option autoImplicit false

namespace DeviceAuth

namespace BinaryForm

variable {α β : Type} [BinaryForm α]

/-- Whatever is read is a value that satisfies `P`, and was written. -/
def Exact (P : α → Prop) : Prop :=
  ∀ bytes a rest, BinaryForm.read bytes = some (a, rest) → bytes = write a ++ rest ∧ P a

/-- Reading on after a value. -/
theorem Exact.of_bind {P : α → Prop} (exact : Exact P) {bytes : Bytes}
    {next : α × Bytes → Option β} {b : β}
    (h : (BinaryForm.read bytes >>= next) = some b) :
    ∃ a rest, bytes = write a ++ rest ∧ P a ∧ next (a, rest) = some b := by
  obtain ⟨⟨a, rest⟩, found, h⟩ := Option.bind_eq_some_iff.1 h
  obtain ⟨written, holds⟩ := exact bytes a rest found
  exact ⟨a, rest, written, holds, h⟩

end BinaryForm

namespace Binary

open BinaryForm

variable {α : Type} [BinaryForm α]

/-! ## Numbers and lists -/

theorem readNumber_eq_some {width n : Nat} {bytes rest : Bytes}
    (h : readNumber width bytes = some (n, rest)) :
    bytes = Bytes.littleEndian width n ++ rest ∧ n < 256 ^ width := by
  unfold readNumber at h
  split at h
  · next long =>
    cases h
    have front : (bytes.take width).length = width := List.length_take_of_le long
    have digits := Bytes.littleEndian_ofLittleEndian (bytes.take width)
    have bound := Bytes.ofLittleEndian_lt (bytes.take width)
    rw [front] at digits bound
    rw [digits, List.take_append_drop]
    exact ⟨rfl, bound⟩
  · cases h

/-- Reading on after the number of a choice. -/
theorem of_readChoice {β : Type} {bytes : Bytes} {next : Nat × Bytes → Option β} {b : β}
    (h : (readChoice bytes >>= next) = some b) :
    ∃ n rest, bytes = writeChoice n ++ rest ∧ next (n, rest) = some b := by
  obtain ⟨⟨n, rest⟩, found, h⟩ := Option.bind_eq_some_iff.1 h
  exact ⟨n, rest, (readNumber_eq_some found).1, h⟩

theorem readOctets_eq_some {count : Nat} {bytes front rest : Bytes}
    (h : readOctets count bytes = some (front, rest)) : bytes = front ++ rest := by
  unfold readOctets at h
  split at h
  · cases h
    rw [List.take_append_drop]
  · cases h

theorem readMany_eq_some {P : α → Prop} (exact : Exact P) {count : Nat} {bytes rest : Bytes}
    {items : List α} (h : readMany count bytes = some (items, rest)) :
    bytes = items.flatMap write ++ rest ∧ items.length = count ∧ ∀ a ∈ items, P a := by
  induction count generalizing bytes items with
  | zero =>
    cases h
    exact ⟨rfl, rfl, nofun⟩
  | succ count ih =>
    obtain ⟨a, bytes, rfl, holds, h⟩ := exact.of_bind h
    obtain ⟨⟨others, rest⟩, found, h⟩ := Option.bind_eq_some_iff.1 h
    cases h
    obtain ⟨rfl, length, all⟩ := ih found
    refine ⟨?_, congrArg Nat.succ length, List.forall_mem_cons.2 ⟨holds, all⟩⟩
    rw [List.flatMap_cons, List.append_assoc]

theorem exact_octet : Exact fun _ : UInt8 => True := by
  intro bytes n rest h
  cases bytes with
  | nil => cases h
  | cons first others =>
    cases h
    exact ⟨rfl, True.intro⟩

theorem exact_word : Exact fun _ : UInt64 => True := by
  intro bytes n rest h
  obtain ⟨⟨m, _⟩, found, h⟩ := Option.map_eq_some_iff.1 h
  cases h
  obtain ⟨rfl, bound⟩ := readNumber_eq_some found
  have number : (UInt64.ofNat m).toNat = m := UInt64.toNat_ofNat_of_lt' bound
  refine ⟨?_, True.intro⟩
  show _ = Bytes.littleEndian 8 (UInt64.ofNat m).toNat ++ _
  rw [number]

theorem exact_bool : Exact fun _ : Bool => True := by
  intro bytes b rest h
  simp only [BinaryForm.read] at h
  split at h
  · cases h
    exact ⟨rfl, True.intro⟩
  · cases h
    exact ⟨rfl, True.intro⟩
  · cases h

theorem exact_octets {n : Nat} : Exact fun _ : Octets n => True := by
  intro bytes x rest h
  obtain ⟨⟨front, _⟩, found, h⟩ := Option.bind_eq_some_iff.1 h
  obtain ⟨octets, length, h⟩ := Option.bind_eq_some_iff.1 h
  cases h
  rw [readOctets_eq_some found, Octets.ofBytes?_eq_some_iff.1 length]
  exact ⟨rfl, True.intro⟩

theorem exact_option {P : α → Prop} (exact : Exact P) :
    Exact fun value : Option α => ∀ a, value = some a → P a := by
  intro bytes value rest h
  simp only [BinaryForm.read] at h
  split at h
  · cases h
    exact ⟨rfl, nofun⟩
  · obtain ⟨⟨a, _⟩, found, h⟩ := Option.map_eq_some_iff.1 h
    cases h
    obtain ⟨rfl, holds⟩ := exact _ _ _ found
    refine ⟨rfl, ?_⟩
    rintro _ ⟨⟩
    exact holds
  · cases h

theorem exact_list {P : α → Prop} (exact : Exact P) :
    Exact fun items : List α => items.length < 2 ^ 64 ∧ ∀ a ∈ items, P a := by
  intro bytes items rest h
  obtain ⟨⟨count, bytes⟩, found, h⟩ := Option.bind_eq_some_iff.1 h
  obtain ⟨counted, bound⟩ := readNumber_eq_some found
  obtain ⟨others, rfl, all⟩ := readMany_eq_some exact h
  refine ⟨?_, bound, all⟩
  rw [counted, others]
  exact (List.append_assoc _ _ _).symm

theorem exact_bytes : Exact fun bytes : Bytes => bytes.length < 2 ^ 64 :=
  fun bytes items rest h => (exact_list exact_octet bytes items rest h).imp_right And.left

theorem exact_text : Exact fun text : String => (Bytes.ofText text).length < 2 ^ 64 := by
  intro bytes text rest h
  obtain ⟨octets, bytes, rfl, bound, h⟩ := exact_bytes.of_bind h
  obtain ⟨found, valid, h⟩ := Option.bind_eq_some_iff.1 h
  cases h
  obtain rfl := Bytes.ofText_of_text? valid
  exact ⟨rfl, bound⟩

end Binary

/-! ## Records -/

open Binary BinaryForm

theorem Counter.exact : Exact fun _ : Counter => True := by
  intro bytes counter rest h
  obtain ⟨choice, bytes, rfl, chosen⟩ := of_readChoice h
  dsimp only at chosen
  split at chosen
  · obtain ⟨value, bytes, rfl, -, found⟩ := exact_word.of_bind chosen
    cases found
    exact ⟨(List.append_assoc _ _ _).symm, True.intro⟩
  · obtain ⟨data, bytes, rfl, -, found⟩ := exact_octets.of_bind chosen
    cases found
    exact ⟨(List.append_assoc _ _ _).symm, True.intro⟩
  · cases chosen

theorem StoredKey.exact : Exact fun stored : StoredKey => stored.bytes.length < 2 ^ 64 := by
  intro bytes stored rest h
  obtain ⟨octets, bytes, rfl, bound, h⟩ := exact_bytes.of_bind h
  cases h
  exact ⟨rfl, bound⟩

theorem FactorKeys.exact : Exact FactorKeys.Fits := by
  intro bytes keys rest h
  rw [FactorKeys.read_eq] at h
  obtain ⟨possession, bytes, rfl, possessionFits, h⟩ := StoredKey.exact.of_bind h
  obtain ⟨knowledge, bytes, rfl, knowledgeFits, h⟩ := StoredKey.exact.of_bind h
  obtain ⟨biometry, bytes, rfl, biometryFits, h⟩ := (exact_option StoredKey.exact).of_bind h
  obtain ⟨transport, bytes, rfl, transportFits, h⟩ := StoredKey.exact.of_bind h
  obtain ⟨salt, bytes, rfl, saltFits, h⟩ := exact_bytes.of_bind h
  cases h
  refine ⟨?_, possessionFits, knowledgeFits, biometryFits, transportFits, saltFits⟩
  simp only [FactorKeys.write_eq, List.append_assoc]

theorem Record.exact : Exact Record.Fits := by
  intro bytes record rest h
  rw [Record.read_eq] at h
  obtain ⟨activationId, bytes, rfl, idFits, h⟩ := exact_text.of_bind h
  obtain ⟨serverKey, bytes, rfl, serverFits, h⟩ := exact_bytes.of_bind h
  obtain ⟨deviceKey, bytes, rfl, deviceFits, h⟩ := exact_bytes.of_bind h
  obtain ⟨devicePrivate, bytes, rfl, privateFits, h⟩ := exact_bytes.of_bind h
  obtain ⟨keys, bytes, rfl, keysFit, h⟩ := FactorKeys.exact.of_bind h
  obtain ⟨counter, bytes, rfl, -, h⟩ := Counter.exact.of_bind h
  obtain ⟨usesExternal, bytes, rfl, -, h⟩ := exact_bool.of_bind h
  obtain ⟨blocked, bytes, rfl, -, h⟩ := exact_bool.of_bind h
  obtain ⟨boundCode, bytes, rfl, -, h⟩ := (exact_option exact_octets).of_bind h
  obtain ⟨confirmedCodes, bytes, rfl, codesFit, h⟩ := (exact_list exact_octets).of_bind h
  cases h
  refine ⟨?_, idFits, serverFits, deviceFits, privateFits, keysFit, codesFit.1⟩
  simp only [Record.write_eq, List.append_assoc]

/-! ## Stored states -/

namespace Stored

theorem exact : Exact Fits := by
  intro bytes stored rest h
  obtain ⟨choice, bytes, rfl, chosen⟩ := of_readChoice h
  dsimp only at chosen
  split at chosen
  · cases chosen
    exact ⟨rfl, True.intro⟩
  · obtain ⟨record, bytes, rfl, fits, found⟩ := Record.exact.of_bind chosen
    cases found
    exact ⟨(List.append_assoc _ _ _).symm, fits⟩
  · cases chosen
    exact ⟨rfl, True.intro⟩
  · cases chosen

/-- **A stored state is read exactly where it is written.** -/
theorem read_eq_some_iff {bytes rest : Bytes} {stored : Stored} :
    BinaryForm.read bytes = some (stored, rest) ↔ stored.Fits ∧ bytes = write stored ++ rest := by
  constructor
  · intro h
    obtain ⟨written, fits⟩ := exact bytes stored rest h
    exact ⟨fits, written⟩
  · rintro ⟨fits, rfl⟩
    exact fits.reads rest

/-- **A string is accepted exactly when a stored state stands at its front**, whatever follows. -/
theorem decode_eq_ok_iff {bytes : Bytes} {stored : Stored} :
    decode bytes = .ok stored ↔ stored.Fits ∧ ∃ rest, bytes = encode stored ++ rest := by
  constructor
  · intro h
    unfold decode at h
    dsimp only at h
    split at h
    · cases h
    · next number found state =>
      split at h
      · next same =>
        cases h
        obtain ⟨first, bytes, rfl, -, state⟩ := exact_octet.of_bind state
        obtain ⟨⟨there, rest⟩, front, state⟩ := Option.bind_eq_some_iff.1 state
        obtain ⟨fits, rfl⟩ := read_eq_some_iff.1 front
        cases state
        subst same
        exact ⟨fits, rest, (List.append_assoc _ _ _).symm⟩
      · cases h
  · rintro ⟨fits, rest, rfl⟩
    have number := reads_octet format (write stored ++ rest)
    have front : BinaryForm.read (write stored ++ rest) = some (stored, rest) :=
      read_eq_some_iff.2 ⟨fits, rfl⟩
    simp [decode, encode, number, front]

/-- Nothing but one stored state can stand at the front of a string. -/
theorem encode_append_inj {stored other : Stored} {rest more : Bytes} (fits : stored.Fits)
    (otherFits : other.Fits) (h : encode stored ++ rest = encode other ++ more) :
    stored = other ∧ rest = more := by
  have first := decode_eq_ok_iff.2 ⟨fits, rest, rfl⟩
  have second := decode_eq_ok_iff.2 ⟨otherFits, more, rfl⟩
  rw [h, second] at first
  obtain rfl := Except.ok.inj first
  exact ⟨rfl, List.append_cancel_left h⟩

end Stored

end DeviceAuth
