import DeviceAuth.Bytes
import DeviceAuth.Json.Reader
import DeviceAuth.Log

/-!
# JSON forms

Every record that travels or is configured as JSON has a `JsonForm`: how it is written, and which
values are read as it. Writing gives one form; reading accepts a little more. A record may be an
object whose fields come in any order among unknown ones, as long as no known field comes twice, or
an array of its fields in order. An alternative may be its name or an object that gives the name
nothing to hold.
-/

set_option autoImplicit false

namespace DeviceAuth

/-- A type with a JSON form. -/
class JsonForm (α : Type) where
  /-- The value written for it. -/
  toJson : α → Json
  /-- What a value is read as. -/
  ofJson? : Json → Option α

export JsonForm (toJson ofJson?)

namespace Json

variable {α : Type}

/-! ## Simple forms -/

/-- A text as a value. -/
def ofText (text : String) : Json := .literal (some text)

instance : JsonForm String where
  toJson := ofText
  ofJson?
    | .literal text => text
    | _ => none

instance : JsonForm Bool where
  toJson := .bool
  ofJson?
    | .bool b => some b
    | _ => none

/-- The numeral of a value, if it is below a bound. -/
def below? (bound : Nat) : Json → Option Nat
  | .whole n => if n < bound then some n else none
  | _ => none

instance : JsonForm UInt8 where
  toJson n := .whole n.toNat
  ofJson? value := (below? UInt8.size value).map UInt8.ofNat

instance : JsonForm UInt32 where
  toJson n := .whole n.toNat
  ofJson? value := (below? UInt32.size value).map UInt32.ofNat

instance : JsonForm UInt64 where
  toJson n := .whole n.toNat
  ofJson? value := (below? UInt64.size value).map UInt64.ofNat

instance [JsonForm α] : JsonForm (Option α) where
  toJson
    | none => .null
    | some a => toJson a
  ofJson?
    | .null => some none
    | value => (ofJson? value).map some

instance [JsonForm α] : JsonForm (List α) where
  toJson items := .array (items.map toJson)
  ofJson?
    | .array items => items.mapM ofJson?
    | _ => none

instance {n : Nat} : JsonForm (Octets n) where
  toJson x := toJson x.bytes
  ofJson? value := (ofJson? value).bind Octets.ofBytes?

/-- What an alternative is read as: its name, or an object with that name and nothing for it. -/
def named? [Named α] : Json → Option α
  | .literal (some text) => Named.ofName? text
  | .object [(some text, .null)] => Named.ofName? text
  | _ => none

/-! ## Records -/

/-- How a record is laid out. -/
structure Layout where
  /-- The names of its fields, in order. -/
  names : List String
  /-- How many of them an array must give; the rest may be left out. -/
  least : Nat

/-- The values of a record's fields, in order; nothing for a field that is left out. -/
def Layout.fields? (layout : Layout) : Json → Option (List (Option Json))
  | .array items =>
    if layout.least ≤ items.length ∧ items.length ≤ layout.names.length then
      some (items.map some ++ List.replicate (layout.names.length - items.length) none)
    else none
  | .object fields =>
    if fields.all fun field => field.1.isSome then
      layout.names.mapM fun name =>
        match fields.filter fun field => field.1 = some name with
        | [] => some none
        | [field] => some (some field.2)
        | _ => none
    else none
  | _ => none

/-- A field that must be given. -/
def required? [JsonForm α] (field : Option Json) : Option α := field.bind ofJson?

/-- A field that may be left out. -/
def given? [JsonForm α] (otherwise : α) : Option Json → Option α
  | none => some otherwise
  | some value => ofJson? value

/-- The object with these fields. -/
def record (fields : List (String × Json)) : Json :=
  .object (fields.map fun field => (some field.1, field.2))

/-! ## Texts -/

/-- The JSON text of a value. -/
def encode [JsonForm α] (a : α) : String := (toJson a).render

/-- What a JSON text is read as. -/
def decode? [JsonForm α] (text : String) : Option α := (read? text).bind ofJson?

/-- What a JSON text is read as, with the reason if it cannot be. -/
def decode [JsonForm α] (text : String) : Except Reason α :=
  match decode? text with
  | some a => .ok a
  | none => .error .json

end Json

instance : JsonForm ProtocolVersion := ⟨fun v => Json.ofText (Named.name v), Json.named?⟩
instance : JsonForm SignatureFactor := ⟨fun f => Json.ofText (Named.name f), Json.named?⟩
instance : JsonForm Phase := ⟨fun p => Json.ofText (Named.name p), Json.named?⟩
instance : JsonForm Verbosity := ⟨fun v => Json.ofText (Named.name v), Json.named?⟩

end DeviceAuth
