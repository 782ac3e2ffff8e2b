import Mathlib.Data.List.Nodup
import RecordTypes.Reading.Base

/-! The models that the objects of a document are read as. Each has declared keys, and at a key
there is another model, a list of them, or something that holds none. For fields it is the `type`
that decides which model their options are. -/

namespace RecordTypes

inductive Model where
  | metadata
  | tableList
  | baseList
  | base
  | table
  | view
  | field
  | temporal
  | choice
  | dateFormat
  | timeFormat
  | precision
  | date
  | dateTime
  | timestamp
  | computed
  | choices
  | duration
  | rating

/-- What is expected at a place of a document. Free-form options hold no models. -/
inductive Slot where
  | model (m : Model)
  | list (m : Model)
  | plain

def TemporalType.optionsSlot : TemporalType → Slot
  | .date => .model .date
  | .dateTime => .model .dateTime

def FieldType.optionsSlot : FieldType → Slot
  | .basic _ => .plain
  | .number _ => .model .precision
  | .temporal type => type.optionsSlot
  | .timestamp _ => .model .timestamp
  | .computed _ => .model .computed
  | .choice _ => .model .choices
  | .duration => .model .duration
  | .rating => .model .rating

/-- Without a known type no options are read. -/
def slotByType {α : Type} [Named α] (optionsSlot : α → Slot) (members : Members) : Slot :=
  match formOf α members with
  | .ok type => optionsSlot type
  | .error _ => .plain

def describedParts (options : Slot) : List (String × Slot) :=
  [("id", .plain), ("name", .plain), ("description", .plain), ("type", .plain),
   ("options", options)]

/-- The declared keys of a model, with what is expected at each. -/
def Model.parts (members : Members) : Model → List (String × Slot)
  | .metadata => [("base", .model .base), ("tables", .list .table)]
  | .tableList => [("tables", .list .table)]
  | .baseList => [("bases", .list .base)]
  | .base => [("id", .plain), ("name", .plain), ("permissionLevel", .plain)]
  | .table =>
    [("id", .plain), ("name", .plain), ("primaryFieldId", .plain), ("description", .plain),
     ("fields", .list .field), ("views", .list .view)]
  | .view => [("id", .plain), ("name", .plain), ("type", .plain)]
  | .field => describedParts (slotByType FieldType.optionsSlot members)
  | .temporal => describedParts (slotByType TemporalType.optionsSlot members)
  | .choice => [("id", .plain), ("name", .plain), ("color", .plain)]
  | .dateFormat | .timeFormat => [("name", .plain), ("format", .plain)]
  | .precision => [("precision", .plain)]
  | .date => [("dateFormat", .model .dateFormat)]
  | .dateTime =>
    [("dateFormat", .model .dateFormat), ("timeFormat", .model .timeFormat),
     ("timeZone", .plain)]
  | .timestamp => [("result", .model .temporal)]
  | .computed => [("result", .model .field)]
  | .choices => [("choices", .list .choice)]
  | .duration => [("durationFormat", .plain)]
  | .rating => [("max", .plain), ("icon", .plain), ("color", .plain)]

def Model.keys (m : Model) : List String := (m.parts []).map Prod.fst

theorem Model.map_fst_parts (m : Model) (members : Members) :
    (m.parts members).map Prod.fst = m.keys := by
  cases m <;> rfl

theorem Model.key_mem_keys {m : Model} {members : Members} {key : String} {slot : Slot}
    (h : (key, slot) ∈ m.parts members) : key ∈ m.keys := by
  rw [← m.map_fst_parts members]
  exact List.mem_map_of_mem h

theorem Model.nodup_keys (m : Model) : m.keys.Nodup := by
  cases m <;> decide

theorem Model.slot_unique {m : Model} {members : Members} {key : String} {slot other : Slot}
    (h : (key, slot) ∈ m.parts members) (hother : (key, other) ∈ m.parts members) :
    slot = other := by
  have hnodup : ((m.parts members).map Prod.fst).Nodup := by
    rw [m.map_fst_parts]
    exact m.nodup_keys
  exact congrArg Prod.snd (List.inj_on_of_nodup_map hnodup h hother rfl)

/-- Two declared keys have no spelling in common. -/
def SpelledApart (key other : String) : Prop :=
  key ≠ other ∧ underscored key ≠ other ∧ key ≠ underscored other ∧
    underscored key ≠ underscored other

theorem Model.spelledApart {m : Model} {key other : String} (hkey : key ∈ m.keys)
    (hother : other ∈ m.keys) (h : key ≠ other) : SpelledApart key other := by
  have hall : ∀ k ∈ m.keys, ∀ o ∈ m.keys, k ≠ o →
      k ≠ o ∧ underscored k ≠ o ∧ k ≠ underscored o ∧ underscored k ≠ underscored o := by
    cases m <;> decide
  exact hall key hkey other hother h

end RecordTypes
