import RecordTypes.Reading.Base

/-! Readings that succeed: each part was read, and each field of a table has a name and an id. -/

namespace RecordTypes

namespace Reading

variable {α β : Type}

theorem map_eq_value {f : α → β} {x : Reading α} {b : β} (h : f <$> x = .value b) :
    ∃ a, x = .value a ∧ f a = b := by
  cases x with
  | value a =>
    cases h
    exact ⟨a, rfl, rfl⟩
  | faulty issues => cases h

theorem seq_eq_value {f : Reading (α → β)} {x : Reading α} {b : β} (h : f <*> x = .value b) :
    ∃ g a, f = .value g ∧ x = .value a ∧ g a = b := by
  cases f with
  | value g =>
    cases x with
    | value a =>
      cases h
      exact ⟨g, a, rfl, rfl, rfl⟩
    | faulty issues => cases h
  | faulty issues => cases x <;> cases h

theorem check_eq_value {f : α → Reading β} {x : Reading α} {b : β} (h : x.check f = .value b) :
    ∃ a, x = .value a ∧ f a = .value b := by
  cases x with
  | value a => exact ⟨a, rfl, h⟩
  | faulty issues => cases h

theorem under_eq_value {place : Place} {x : Reading α} {a : α} (h : x.under place = .value a) :
    x = .value a := by
  cases x with
  | value a' => exact h
  | faulty issues => cases h

end Reading

theorem required_eq_value {α : Type} {key : String} {read : Json → Reading α} {members : Members}
    {a : α} (h : required key read members = .value a) :
    ∃ raw, members.spelled? key = some raw ∧ read raw = .value a := by
  unfold required at h
  split at h
  · rename_i raw hraw
    exact ⟨raw, hraw, Reading.under_eq_value h⟩
  · cases h

theorem checkIdentified_eq_value {index : Nat} {fields : List Field}
    (h : checkIdentified index fields = .value ()) :
    ∀ field ∈ fields, field.isIdentified = true := by
  induction fields generalizing index with
  | nil => simp
  | cons field fields ih =>
    rw [checkIdentified] at h
    by_cases hfield : field.isIdentified = true
    · rw [if_pos hfield] at h
      exact List.forall_mem_cons.mpr ⟨hfield, ih h⟩
    · rw [if_neg hfield] at h
      cases h

theorem isIdentified_of_readFields {raw : Json} {fields : List Field}
    (h : readFields raw = .value fields) : ∀ field ∈ fields, field.isIdentified = true := by
  obtain ⟨read, -, hcheck⟩ := Reading.check_eq_value h
  obtain ⟨⟨⟩, hidentified, rfl⟩ := Reading.map_eq_value hcheck
  exact checkIdentified_eq_value hidentified

theorem readTable_eq_value {raw : Json} {table : Table} (h : readTable raw = .value table) :
    ∃ members, raw = .obj members ∧
      required "id" readText members = .value table.id ∧
      required "name" readText members = .value table.name ∧
      required "primaryFieldId" readText members = .value table.primaryFieldId ∧
      optional "description" readText members = .value table.description ∧
      required "fields" readFields members = .value table.fields ∧
      withDefault "views" [] (readList readView) members = .value table.views := by
  cases raw with
  | obj members =>
    obtain ⟨ofViews, views, hofViews, hviews, rfl⟩ := Reading.seq_eq_value h
    obtain ⟨ofFields, fields, hofFields, hfields, rfl⟩ := Reading.seq_eq_value hofViews
    obtain ⟨ofDescription, description, hofDescription, hdescription, rfl⟩ :=
      Reading.seq_eq_value hofFields
    obtain ⟨ofPrimary, primaryFieldId, hofPrimary, hprimary, rfl⟩ :=
      Reading.seq_eq_value hofDescription
    obtain ⟨ofName, name, hofName, hname, rfl⟩ := Reading.seq_eq_value hofPrimary
    obtain ⟨id, hid, rfl⟩ := Reading.map_eq_value hofName
    exact ⟨members, rfl, hid, hname, hprimary, hdescription, hfields, hviews⟩
  | _ => cases h

theorem isIdentified_of_readTable {raw : Json} {table : Table} (h : readTable raw = .value table) :
    ∀ field ∈ table.fields, field.isIdentified = true := by
  obtain ⟨members, -, -, -, -, -, hfields, -⟩ := readTable_eq_value h
  obtain ⟨rawFields, -, hread⟩ := required_eq_value hfields
  exact isIdentified_of_readFields hread

theorem Field.name_eq_label {field : Field} (h : field.isIdentified = true) :
    field.heading.name = some field.label := by
  simp only [isIdentified, Bool.and_eq_true] at h
  obtain ⟨-, hname⟩ := h
  unfold label labelOf
  cases hcase : field.heading.name with
  | none => simp [hcase, isFilled] at hname
  | some name =>
    have hempty : name.isEmpty = false := by simpa [hcase, isFilled] using hname
    simp [hempty]

end RecordTypes
