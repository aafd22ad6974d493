import Mathlib.Data.List.Nodup
import DeviceAuth.Code.Activation
import DeviceAuth.Envelope
import DeviceAuth.Proofs.Bytes
import DeviceAuth.Proofs.Json.Reading
import DeviceAuth.Record.Form
import DeviceAuth.Session.Activation
import DeviceAuth.Session.Upkeep
import DeviceAuth.Setup
import DeviceAuth.Status
import DeviceAuth.Token

/-!
# Every form is read as what was written in it

A form is lawful when it reads what it writes. An option is written as what it holds or as null, so what
it holds must not be written as null itself (`Present`). From the simple forms to lists, options and
records, each kind of form is lawful when its parts are.

A record reads more than it writes: an object that has its fields in any order, and among fields of
other names (`Shows`). Since all records are read through their layout, this is proved of layouts
(`Layout.fields?_of_shows`), and each record adds no more than its list of fields.
-/

set_option autoImplicit false

namespace DeviceAuth.Json

variable {α : Type}

/-! ## Simple forms -/

/-- Whatever is written in a form is read in it. -/
class Lawful (α : Type) [JsonForm α] : Prop where
  ofJson?_toJson : ∀ a : α, ofJson? (toJson a) = some a

/-- Nothing is written as null. -/
class Present (α : Type) [JsonForm α] : Prop extends Lawful α where
  toJson_ne_null : ∀ a : α, toJson a ≠ .null

export Lawful (ofJson?_toJson)

theorem below?_whole {bound n : Nat} (h : n < bound) : below? bound (.whole n) = some n := if_pos h

instance : Present String where
  ofJson?_toJson _ := rfl
  toJson_ne_null _ := Json.noConfusion

instance : Present Bool where
  ofJson?_toJson _ := rfl
  toJson_ne_null _ := Json.noConfusion

instance : Present UInt8 where
  ofJson?_toJson n := by
    show (below? UInt8.size (.whole n.toNat)).map UInt8.ofNat = some n
    rw [below?_whole n.toNat_lt, Option.map_some, UInt8.ofNat_toNat]
  toJson_ne_null _ := Json.noConfusion

instance : Present UInt32 where
  ofJson?_toJson n := by
    show (below? UInt32.size (.whole n.toNat)).map UInt32.ofNat = some n
    rw [below?_whole n.toNat_lt, Option.map_some, UInt32.ofNat_toNat]
  toJson_ne_null _ := Json.noConfusion

instance : Present UInt64 where
  ofJson?_toJson n := by
    show (below? UInt64.size (.whole n.toNat)).map UInt64.ofNat = some n
    rw [below?_whole n.toNat_lt, Option.map_some, UInt64.ofNat_toNat]
  toJson_ne_null _ := Json.noConfusion

instance [JsonForm α] [Present α] : Lawful (Option α) where
  ofJson?_toJson value := by
    cases value with
    | none => rfl
    | some a =>
      show (match toJson a with
        | .null => some none
        | value => (ofJson? value).map some) = some (some a)
      split
      · next null => exact absurd null (Present.toJson_ne_null a)
      · rw [ofJson?_toJson]
        rfl

/-- What is found for each item is found for all of them. -/
theorem mapM_map_eq_some {β γ : Type} {items : List α} {write : α → β} {read : β → Option γ}
    {held : α → γ} (found : ∀ item ∈ items, read (write item) = some (held item)) :
    (items.map write).mapM read = some (items.map held) := by
  induction items with
  | nil => rfl
  | cons item items ih =>
    rw [List.map_cons, List.mapM_cons, found item List.mem_cons_self,
      ih fun other known => found other (List.mem_cons_of_mem _ known)]
    rfl

instance [JsonForm α] [Lawful α] : Present (List α) where
  ofJson?_toJson items := by
    show (items.map toJson).mapM ofJson? = some items
    rw [mapM_map_eq_some fun item _ => ofJson?_toJson item, List.map_id']
  toJson_ne_null _ := Json.noConfusion

instance {n : Nat} : Present (Octets n) where
  ofJson?_toJson x := by
    show (ofJson? (toJson x.bytes)).bind Octets.ofBytes? = some x
    rw [ofJson?_toJson, Option.bind_some, Octets.ofBytes?_bytes]
  toJson_ne_null _ := Json.noConfusion

instance : Present StoredKey where
  ofJson?_toJson stored := by
    show (ofJson? (toJson stored.bytes)).map StoredKey.mk = some stored
    rw [ofJson?_toJson]
    rfl
  toJson_ne_null _ := Json.noConfusion

instance : Present Counter where
  ofJson?_toJson counter := by
    cases counter with
    | linear value =>
      show (ofJson? (toJson value)).map Counter.linear = _
      rw [ofJson?_toJson]
      rfl
    | hashed data =>
      show (ofJson? (toJson data)).map Counter.hashed = _
      rw [ofJson?_toJson]
      rfl
  toJson_ne_null counter := by cases counter <;> exact Json.noConfusion

/-! ## Records -/

/-- An object shows a record: it has the record's fields in any order, and among fields of other names. -/
def Shows (fields shown : List (String × Json)) : Prop :=
  ∃ more : List (String × Json),
    (∀ field ∈ more, field.1 ∉ fields.map Prod.fst) ∧ shown.Perm (fields ++ more)

theorem Shows.refl (fields : List (String × Json)) : Shows fields fields :=
  ⟨[], by simp, by simp⟩

variable {fields shown : List (String × Json)}

theorem record_inj : record fields = record shown ↔ fields = shown := by
  unfold record
  rw [object.injEq]
  exact List.map_inj_right fun _ _ same => by simpa [Prod.ext_iff] using same

theorem filter_name_eq {field : String × Json} (distinct : (fields.map Prod.fst).Nodup)
    (h : field ∈ fields) : fields.filter (fun other => other.1 = field.1) = [field] := by
  induction fields with
  | nil => cases h
  | cons first fields ih =>
    obtain ⟨fresh, distinct⟩ := List.nodup_cons.1 distinct
    rcases List.mem_cons.1 h with rfl | h
    · rw [List.filter_cons_of_pos (by simp), List.filter_eq_nil_iff.2]
      intro other h same
      exact fresh (List.mem_map.2 ⟨other, h, by simpa using same⟩)
    · rw [List.filter_cons_of_neg, ih distinct h]
      intro same
      exact fresh (List.mem_map.2 ⟨field, h, by simpa using Eq.symm (by simpa using same)⟩)

/-- Among what is shown, a field of the record is the only one of its name. -/
theorem Shows.filter_eq (shows : Shows fields shown) (distinct : (fields.map Prod.fst).Nodup)
    {field : String × Json} (h : field ∈ fields) :
    shown.filter (fun other => other.1 = field.1) = [field] := by
  obtain ⟨more, foreign, perm⟩ := shows
  have none : more.filter (fun other => other.1 = field.1) = [] := by
    rw [List.filter_eq_nil_iff]
    intro other known same
    exact foreign other known (List.mem_map.2 ⟨field, h, by simpa using Eq.symm (by simpa using same)⟩)
  have found := perm.filter (fun other => other.1 = field.1)
  rw [List.filter_append, filter_name_eq distinct h, none, List.append_nil] at found
  exact List.perm_singleton.1 found

/-- **The fields of a record are found in whatever shows it.** -/
theorem Layout.fields?_of_shows {layout : Layout} (distinct : layout.names.Nodup)
    (names : fields.map Prod.fst = layout.names) (shows : Shows fields shown) :
    layout.fields? (record shown) = some (fields.map fun field => some field.2) := by
  rw [← names] at distinct
  unfold fields? record
  rw [← names]
  dsimp only
  rw [if_pos (by simp)]
  refine mapM_map_eq_some fun field known => ?_
  have only := shows.filter_eq distinct known
  simp [List.filter_map, Function.comp_def, only]

/-- A record's form: whatever shows the record is read as it. -/
class Tolerant (α : Type) [JsonForm α] : Prop where
  exists_fields : ∀ a : α, ∃ fields, toJson a = record fields
    ∧ ∀ shown, Shows fields shown → ofJson? (record shown) = some a

instance [JsonForm α] [Tolerant α] : Present α where
  ofJson?_toJson a := by
    obtain ⟨fields, written, reads⟩ := Tolerant.exists_fields a
    rw [written]
    exact reads fields (.refl fields)
  toJson_ne_null a := by
    obtain ⟨fields, written, -⟩ := Tolerant.exists_fields a
    rw [written]
    exact Json.noConfusion

/-- A record that is read through its layout. -/
theorem Tolerant.of_layout [JsonForm α] (layout : Layout) (distinct : layout.names.Nodup)
    (read : List (Option Json) → Option α) (fields : α → List (String × Json))
    (ofJson? : ∀ value, (ofJson? value : Option α) = (layout.fields? value).bind read)
    (written : ∀ a, toJson a = record (fields a))
    (names : ∀ a, (fields a).map Prod.fst = layout.names)
    (reads : ∀ a, read ((fields a).map fun field => some field.2) = some a) : Tolerant α := by
  refine ⟨fun a => ⟨fields a, written a, fun shown shows => ?_⟩⟩
  rw [ofJson?, Layout.fields?_of_shows distinct (names a) shows]
  exact reads a

@[simp] theorem required?_toJson [JsonForm α] [Lawful α] (a : α) :
    required? (some (toJson a)) = some a :=
  ofJson?_toJson a

@[simp] theorem given?_toJson [JsonForm α] [Lawful α] (otherwise a : α) :
    given? otherwise (some (toJson a)) = some a :=
  ofJson?_toJson a

instance : Tolerant Setup :=
  .of_layout Setup.layout (by decide) _ _ (fun _ => rfl) (fun _ => rfl) (fun _ => rfl)
    fun _ => by simp

instance : Tolerant ActivationCode :=
  .of_layout ActivationCode.layout (by decide) _ _ (fun _ => rfl) (fun _ => rfl) (fun _ => rfl)
    fun _ => by simp

instance : Tolerant RecoveryData :=
  .of_layout RecoveryData.layout (by decide) _ _ (fun _ => rfl) (fun _ => rfl) (fun _ => rfl)
    fun _ => by simp

instance : Tolerant ActivationAnswer :=
  .of_layout ActivationAnswer.layout (by decide) _ _ (fun _ => rfl) (fun _ => rfl) (fun _ => rfl)
    fun _ => by simp

instance : Tolerant UpgradeData :=
  .of_layout UpgradeData.layout (by decide) _ _ (fun _ => rfl) (fun _ => rfl) (fun _ => rfl)
    fun _ => by simp

instance : Tolerant TokenData :=
  .of_layout TokenData.layout (by decide) _ _ (fun _ => rfl) (fun _ => rfl) (fun _ => rfl)
    fun _ => by simp

instance : Tolerant WireRequest :=
  .of_layout WireRequest.layout (by decide) _ _ (fun _ => rfl) (fun _ => rfl) (fun _ => rfl)
    fun _ => by simp

instance : Tolerant WireResponse :=
  .of_layout WireResponse.layout (by decide) _ _ (fun _ => rfl) (fun _ => rfl) (fun _ => rfl)
    fun _ => by simp

instance : Tolerant EncryptedStatus :=
  .of_layout EncryptedStatus.layout (by decide) _ _ (fun _ => rfl) (fun _ => rfl) (fun _ => rfl)
    fun _ => by simp

instance : Tolerant FactorKeys :=
  .of_layout FactorKeys.layout (by decide) _ _ (fun _ => rfl) (fun _ => rfl) (fun _ => rfl)
    fun _ => by simp

instance : Tolerant Record :=
  .of_layout Record.layout (by decide) _ _ (fun _ => rfl) (fun _ => rfl) (fun _ => rfl)
    fun _ => by simp

/-! ## Texts -/

theorem decode?_of_read? [JsonForm α] {text : String} {value : Json} (read : read? text = some value) :
    (decode? text : Option α) = ofJson? value := by
  unfold decode?
  rw [read, Option.bind_some]

theorem decode?_render [JsonForm α] (value : Json) : (decode? value.render : Option α) = ofJson? value :=
  decode?_of_read? (read?_render value)

/-- A record comes back from its own JSON text, and from the text of any object that has the record's
fields in some order and among fields of other names, however the text is spaced and escaped. -/
structure Survives (α : Type) [JsonForm α] : Prop where
  written : ∀ a : α, decode? (encode a) = some a
  shown : ∀ a : α, ∃ fields : List (String × Json), toJson a = record fields ∧
    ∀ more shown : List (String × Json), (∀ field ∈ more, field.1 ∉ fields.map Prod.fst) →
      shown.Perm (fields ++ more) →
      decode? (record shown).render = some a
        ∧ ∀ text, read? text = some (record shown) → decode? text = some a

theorem Tolerant.survives (α : Type) [JsonForm α] [Tolerant α] : Survives α := by
  constructor
  · intro a
    exact (decode?_render _).trans (ofJson?_toJson a)
  · intro a
    obtain ⟨fields, written, reads⟩ := Tolerant.exists_fields a
    refine ⟨fields, written, fun more shown foreign perm => ?_⟩
    have read := reads shown ⟨more, foreign, perm⟩
    exact ⟨(decode?_render _).trans read, fun text same => (decode?_of_read? same).trans read⟩

/-- **Every wire and configuration type survives JSON.** Whatever texts, octets, numbers and options a
value holds, its JSON text is read as that value; and for records, unknown fields and another order of
the fields make no difference. -/
theorem forms_survive :
    Survives Setup ∧ Survives ActivationCode ∧ Survives ActivationAnswer ∧ Survives UpgradeData
    ∧ Survives RecoveryData ∧ Survives TokenData ∧ Survives WireRequest ∧ Survives WireResponse
    ∧ Survives EncryptedStatus ∧ Survives Record
    ∧ ∀ counter : Counter, decode? (encode counter) = some counter :=
  ⟨Tolerant.survives _, Tolerant.survives _, Tolerant.survives _, Tolerant.survives _,
    Tolerant.survives _, Tolerant.survives _, Tolerant.survives _, Tolerant.survives _,
    Tolerant.survives _, Tolerant.survives _,
    fun counter => (decode?_render _).trans (ofJson?_toJson counter)⟩

/-- A recovery code and its key in the other order, with a field that is not theirs in between. -/
theorem recovery_of_shuffled :
    let data : RecoveryData := ⟨"A\n\"", "01é"⟩
    let since : String × Json := ("since", .array [.null, .decimal])
    let shown := [("puk", toJson data.puk), since, ("recoveryCode", toJson data.code)]
    decode? (record shown).render = some data := by
  intro data since shown
  obtain ⟨-, -, -, -, ⟨-, survives⟩, -⟩ := forms_survive
  obtain ⟨fields, written, reads⟩ := survives data
  obtain rfl : [("recoveryCode", toJson data.code), ("puk", toJson data.puk)] = fields :=
    record_inj.1 written
  have foreign : ∀ field ∈ [since], field.1 ∉ ["recoveryCode", "puk"] := by simp [since]
  have perm : shown.Perm ([("recoveryCode", toJson data.code)] ++ [("puk", toJson data.puk), since]) :=
    (List.perm_append_comm : ([("puk", toJson data.puk), since] ++ _).Perm _)
  exact (reads [since] shown foreign perm).1

end DeviceAuth.Json
