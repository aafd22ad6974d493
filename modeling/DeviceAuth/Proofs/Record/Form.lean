import DeviceAuth.Proofs.Bytes
import DeviceAuth.Record.Form

/-!
# A stored state is restored

`BinaryForm.Reads a` says that the reader of a form, put in front of what the writer wrote for `a`,
takes exactly that much and gives `a` back, whatever follows. It passes from the parts of a value to
the value, so that every form has one short lemma and `Stored.decode_encode` is the last of them.

A list is written with its length in eight octets. A list of 2^64 entries or more has no such
length, and no machine has such a list; `Record.Fits` says of a record that its texts and octet
strings are shorter than that.
-/

set_option autoImplicit false

namespace DeviceAuth

namespace BinaryForm

variable {α : Type} [BinaryForm α]

/-- What is written for a value is read back, whatever follows. -/
def Reads (a : α) : Prop := ∀ rest, BinaryForm.read (write a ++ rest) = some (a, rest)

theorem Reads.bind {β : Type} {a : α} (h : Reads a) (rest : Bytes) (f : α × Bytes → Option β) :
    (BinaryForm.read (write a ++ rest)).bind f = f (a, rest) := by
  rw [h rest, Option.bind_some]

end BinaryForm

namespace Binary

open BinaryForm

variable {α : Type} [BinaryForm α]

/-! ## Numbers and lists -/

theorem readNumber_littleEndian {width n : Nat} (h : n < 256 ^ width) (rest : Bytes) :
    readNumber width (Bytes.littleEndian width n ++ rest) = some (n, rest) := by
  have long : width ≤ (Bytes.littleEndian width n ++ rest).length := by simp
  have front : (Bytes.littleEndian width n ++ rest).take width = Bytes.littleEndian width n := by
    simp
  have back : (Bytes.littleEndian width n ++ rest).drop width = rest := by simp
  unfold readNumber
  rw [if_pos long, front, back, Bytes.ofLittleEndian_littleEndian, Nat.mod_eq_of_lt h]

theorem readChoice_writeChoice {n : Nat} (h : n < 256 ^ 4) (rest : Bytes) :
    readChoice (writeChoice n ++ rest) = some (n, rest) :=
  readNumber_littleEndian h rest

theorem readOctets_append {bytes : Bytes} {count : Nat} (h : bytes.length = count) (rest : Bytes) :
    readOctets count (bytes ++ rest) = some (bytes, rest) := by
  subst h
  simp [readOctets]

theorem readMany_flatMap {items : List α} (h : ∀ a ∈ items, Reads a) (rest : Bytes) :
    readMany items.length (items.flatMap write ++ rest) = some (items, rest) := by
  induction items with
  | nil => rfl
  | cons a items ih =>
    have first := h a List.mem_cons_self (items.flatMap write ++ rest)
    have others := ih fun b hb => h b (List.mem_cons_of_mem _ hb)
    show (BinaryForm.read ((a :: items).flatMap write ++ rest)).bind _ = _
    rw [List.flatMap_cons, List.append_assoc, first]
    show (readMany items.length (items.flatMap write ++ rest)).bind _ = _
    rw [others]
    rfl

theorem reads_octet (n : UInt8) : Reads n := fun _ => rfl

theorem reads_word (n : UInt64) : Reads n := by
  intro rest
  show (readNumber 8 (Bytes.littleEndian 8 n.toNat ++ rest)).map _ = _
  rw [readNumber_littleEndian n.toNat_lt]
  simp

theorem reads_bool (b : Bool) : Reads b := by
  intro rest
  cases b <;> rfl

theorem reads_octets {n : Nat} (x : Octets n) : Reads x := by
  intro rest
  have h : readOctets n (x.bytes ++ rest) = some (x.bytes, rest) := readOctets_append x.length_eq rest
  show (readOctets n (x.bytes ++ rest)).bind _ = _
  rw [h]
  simp

theorem reads_option {value : Option α} (h : ∀ a, value = some a → Reads a) : Reads value := by
  intro rest
  cases value with
  | none => rfl
  | some a =>
    show (BinaryForm.read (write a ++ rest)).map _ = _
    rw [h a rfl rest]
    rfl

theorem reads_list {items : List α} (length : items.length < 2 ^ 64) (h : ∀ a ∈ items, Reads a) :
    Reads items := by
  intro rest
  show (readNumber 8 (Bytes.littleEndian 8 items.length ++ items.flatMap write ++ rest)).bind _ = _
  rw [List.append_assoc, readNumber_littleEndian length, Option.bind_some]
  exact readMany_flatMap h rest

theorem reads_bytes {bytes : Bytes} (length : bytes.length < 2 ^ 64) : Reads bytes :=
  reads_list length fun n _ => reads_octet n

theorem reads_text {text : String} (length : (Bytes.ofText text).length < 2 ^ 64) : Reads text := by
  intro rest
  show ((BinaryForm.read (write (Bytes.ofText text) ++ rest) : Option (Bytes × Bytes)).bind _) = _
  rw [reads_bytes length rest, Option.bind_some]
  simp [Bytes.text?_ofText]

end Binary

/-! ## Records -/

open Binary BinaryForm

theorem Counter.reads (counter : Counter) : Reads counter := by
  intro rest
  cases counter with
  | linear value =>
    show (readChoice (writeChoice 0 ++ write value ++ rest)).bind _ = _
    rw [List.append_assoc, readChoice_writeChoice (by decide), Option.bind_some]
    simp [reads_word value rest]
  | hashed data =>
    show (readChoice (writeChoice 1 ++ write data ++ rest)).bind _ = _
    rw [List.append_assoc, readChoice_writeChoice (by decide), Option.bind_some]
    simp [reads_octets data rest]

theorem StoredKey.reads {stored : StoredKey} (h : stored.bytes.length < 2 ^ 64) : Reads stored := by
  intro rest
  show (BinaryForm.read (write stored.bytes ++ rest)).bind _ = _
  rw [reads_bytes h rest]
  rfl

/-- Every octet string among the factor keys has a length that can be written. -/
structure FactorKeys.Fits (keys : FactorKeys) : Prop where
  possession : keys.possession.bytes.length < 2 ^ 64
  knowledge : keys.knowledge.bytes.length < 2 ^ 64
  biometry : ∀ stored, keys.biometry = some stored → stored.bytes.length < 2 ^ 64
  transport : keys.transport.bytes.length < 2 ^ 64
  salt : keys.salt.length < 2 ^ 64

theorem FactorKeys.write_eq (keys : FactorKeys) :
    write keys = write keys.possession ++ write keys.knowledge ++ write keys.biometry
      ++ write keys.transport ++ write keys.salt := rfl

theorem FactorKeys.read_eq (bytes : Bytes) :
    (BinaryForm.read bytes : Option (FactorKeys × Bytes)) = do
    let (possession, bytes) ← BinaryForm.read bytes
    let (knowledge, bytes) ← BinaryForm.read bytes
    let (biometry, bytes) ← BinaryForm.read bytes
    let (transport, bytes) ← BinaryForm.read bytes
    let (salt, bytes) ← BinaryForm.read bytes
    return (⟨possession, knowledge, biometry, transport, salt⟩, bytes) := rfl

theorem FactorKeys.Fits.reads {keys : FactorKeys} (h : keys.Fits) : Reads keys := by
  intro rest
  have possession := StoredKey.reads h.possession
  have knowledge := StoredKey.reads h.knowledge
  have biometry : Reads keys.biometry :=
    reads_option fun stored hs => StoredKey.reads (h.biometry stored hs)
  have transport := StoredKey.reads h.transport
  have salt := reads_bytes h.salt
  rw [FactorKeys.read_eq, FactorKeys.write_eq]
  simp only [List.append_assoc, Option.bind_eq_bind, possession.bind, knowledge.bind, biometry.bind,
    transport.bind, salt.bind]
  rfl

/-- Every text and octet string of a record has a length that can be written. -/
structure Record.Fits (record : Record) : Prop where
  activationId : (Bytes.ofText record.activationId).length < 2 ^ 64
  serverKey : record.serverKey.length < 2 ^ 64
  deviceKey : record.deviceKey.length < 2 ^ 64
  devicePrivate : record.devicePrivate.length < 2 ^ 64
  keys : record.keys.Fits
  confirmedCodes : record.confirmedCodes.length < 2 ^ 64

theorem Record.write_eq (record : Record) :
    write record = write record.activationId ++ write record.serverKey ++ write record.deviceKey
      ++ write record.devicePrivate ++ write record.keys ++ write record.counter
      ++ write record.usesExternal ++ write record.blocked ++ write record.boundCode
      ++ write record.confirmedCodes := rfl

theorem Record.read_eq (bytes : Bytes) : (BinaryForm.read bytes : Option (Record × Bytes)) = do
    let (activationId, bytes) ← BinaryForm.read bytes
    let (serverKey, bytes) ← BinaryForm.read bytes
    let (deviceKey, bytes) ← BinaryForm.read bytes
    let (devicePrivate, bytes) ← BinaryForm.read bytes
    let (keys, bytes) ← BinaryForm.read bytes
    let (counter, bytes) ← BinaryForm.read bytes
    let (usesExternal, bytes) ← BinaryForm.read bytes
    let (blocked, bytes) ← BinaryForm.read bytes
    let (boundCode, bytes) ← BinaryForm.read bytes
    let (confirmedCodes, bytes) ← BinaryForm.read bytes
    return (⟨activationId, serverKey, deviceKey, devicePrivate, keys, counter, usesExternal, blocked,
      boundCode, confirmedCodes⟩, bytes) := rfl

theorem Record.Fits.reads {record : Record} (h : record.Fits) : Reads record := by
  intro rest
  have activationId := reads_text h.activationId
  have serverKey := reads_bytes h.serverKey
  have deviceKey := reads_bytes h.deviceKey
  have devicePrivate := reads_bytes h.devicePrivate
  have keys := h.keys.reads
  have counter := record.counter.reads
  have usesExternal := reads_bool record.usesExternal
  have blocked := reads_bool record.blocked
  have boundCode : Reads record.boundCode := reads_option fun digest _ => reads_octets digest
  have confirmedCodes := reads_list h.confirmedCodes fun digest _ => reads_octets digest
  rw [Record.read_eq, Record.write_eq]
  simp only [List.append_assoc, Option.bind_eq_bind, activationId.bind, serverKey.bind,
    deviceKey.bind, devicePrivate.bind, keys.bind, counter.bind, usesExternal.bind, blocked.bind,
    boundCode.bind, confirmedCodes.bind]
  rfl

/-! ## Stored states -/

namespace Stored

/-- What is stored can be read. -/
def Fits : Stored → Prop
  | .activated record => record.Fits
  | _ => True

theorem Fits.reads {stored : Stored} (h : stored.Fits) : Reads stored := by
  intro rest
  cases stored with
  | empty => rfl
  | removed => rfl
  | activated record =>
    show (readChoice (writeChoice 1 ++ write record ++ rest)).bind _ = _
    rw [List.append_assoc, readChoice_writeChoice (by decide), Option.bind_some]
    simp only [Option.bind_eq_bind, (Record.Fits.reads h).bind]
    rfl

/-- **A stored state is restored** as it was. -/
theorem decode_encode {stored : Stored} (h : stored.Fits) : decode (encode stored) = .ok stored := by
  have front := reads_octet format (write stored)
  have back := h.reads []
  rw [List.append_nil] at back
  simp [decode, encode, front, back]

end Stored

end DeviceAuth
