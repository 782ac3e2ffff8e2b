import RecordTypes.Metadata.Base

/-! Names that tell the values of a vocabulary apart. -/

namespace RecordTypes

class LawfulNamed (α : Type) [Named α] : Prop where
  ofName?_name : ∀ a : α, Named.ofName? (Named.name a) = some a

theorem Named.name_of_ofName? {α : Type} [Named α] {s : String} {a : α}
    (h : (ofName? s : Option α) = some a) : name a = s := by
  unfold ofName? at h
  simpa using List.find?_some h

theorem Named.ofName?_eq_none_iff {α : Type} [Named α] {s : String} :
    (ofName? s : Option α) = none ↔ s ∉ names α := by
  simp [ofName?, names]

instance : LawfulNamed BasicType := ⟨fun a => by cases a <;> rfl⟩

instance : LawfulNamed NumberType := ⟨fun a => by cases a <;> rfl⟩

instance : LawfulNamed TemporalType := ⟨fun a => by cases a <;> rfl⟩

instance : LawfulNamed ComputedType := ⟨fun a => by cases a <;> rfl⟩

instance : LawfulNamed FieldType where
  ofName?_name a := by
    cases a with
    | basic type => cases type <;> rfl
    | number type => cases type <;> rfl
    | temporal type => cases type <;> rfl
    | timestamp type => cases type <;> rfl
    | computed type => cases type <;> rfl
    | choice type => cases type <;> rfl
    | duration => rfl
    | rating => rfl

instance : LawfulNamed DateStyle := ⟨fun a => by cases a <;> rfl⟩

instance : LawfulNamed ClockStyle := ⟨fun a => by cases a <;> rfl⟩

instance : LawfulNamed DurationFormat := ⟨fun a => by cases a <;> rfl⟩

instance : LawfulNamed RatingIcon := ⟨fun a => by cases a <;> rfl⟩

instance : LawfulNamed RatingColor := ⟨fun a => by cases a <;> rfl⟩

instance : LawfulNamed ViewType := ⟨fun a => by cases a <;> rfl⟩

instance : LawfulNamed Permission := ⟨fun a => by cases a <;> rfl⟩

end RecordTypes
