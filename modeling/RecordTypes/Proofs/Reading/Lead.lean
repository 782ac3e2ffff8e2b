import RecordTypes.Proofs.Metadata.Named
import RecordTypes.Proofs.Reading.Model

/-! Locations that lead into a document along declared keys, as they are spelled there, and list
indices. Where a `type` chose the model, its name is a part of the location, too. -/

namespace RecordTypes

def typeName? (α : Type) [Named α] (members : Members) : Option String :=
  match formOf α members with
  | .ok type => some (Named.name type)
  | .error _ => none

/-- The tag of a model that was chosen by a `type`. -/
def Model.tag? (members : Members) : Model → Option String
  | .field => typeName? FieldType members
  | .temporal => typeName? TemporalType members
  | _ => none

inductive Slot.Leads : Slot → Json → Location → Prop where
  | here (slot : Slot) (raw : Json) : Leads slot raw []
  | item {m : Model} {items : List Json} {i : Nat} {raw : Json} {rest : Location}
      (hitem : items[i]? = some raw) (h : Leads (.model m) raw rest) :
      Leads (.list m) (.arr items) (.index i :: rest)
  | absent {m : Model} {members : Members} {key : String} {slot : Slot}
      (hpart : (key, slot) ∈ m.parts members) (hraw : members.spelled? key = none) :
      Leads (.model m) (.obj members) [.key key]
  | part {m : Model} {members : Members} {key : String} {slot : Slot} {raw : Json}
      {rest : Location} (hpart : (key, slot) ∈ m.parts members)
      (hraw : members.spelled? key = some raw) (h : Leads slot raw rest) :
      Leads (.model m) (.obj members) (.key (members.spelling key) :: rest)
  | tag {m : Model} {members : Members} {name : String} {rest : Location}
      (htag : m.tag? members = some name) (h : Leads (.model m) (.obj members) rest) :
      Leads (.model m) (.obj members) (.tag name :: rest)

theorem formOf_eq_ok {α : Type} [Named α] {members : Members} {type : α}
    (h : formOf α members = .ok type) : members.find? "type" = some (.str (Named.name type)) := by
  unfold formOf at h
  split at h
  · cases h
  · rename_i s hfind
    split at h
    · rename_i form hform
      cases h
      rw [hfind, Named.name_of_ofName? hform]
    · cases h
  · cases h

theorem find?_type_of_typeName? {α : Type} [Named α] {members : Members} {name : String}
    (h : typeName? α members = some name) :
    ∃ type : α, Named.name type = name ∧ members.find? "type" = some (.str name) := by
  unfold typeName? at h
  split at h
  · rename_i type hform
    cases h
    exact ⟨type, rfl, formOf_eq_ok hform⟩
  · cases h

theorem Model.find?_type_of_tag? {m : Model} {members : Members} {name : String}
    (h : m.tag? members = some name) : members.find? "type" = some (.str name) := by
  cases m with
  | field =>
    obtain ⟨-, -, hfind⟩ := find?_type_of_typeName? h
    exact hfind
  | temporal =>
    obtain ⟨-, -, hfind⟩ := find?_type_of_typeName? h
    exact hfind
  | _ => cases h

end RecordTypes
