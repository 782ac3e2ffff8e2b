import RecordTypes.Proofs.Reading.Base

/-! Fields that are known by an id and a name, and the first one of a table that is not. -/

namespace RecordTypes

def Field.HasIdentity (field : Field) : Prop :=
  ∃ id name, field.heading.id = some id ∧ id ≠ "" ∧ field.heading.name = some name ∧ name ≠ ""

theorem isFilled_iff (s : Option String) : isFilled s = true ↔ ∃ t, s = some t ∧ t ≠ "" := by
  cases s <;> simp [isFilled]

theorem Field.isIdentified_iff (field : Field) :
    field.isIdentified = true ↔ field.HasIdentity := by
  simp only [isIdentified, Bool.and_eq_true, isFilled_iff]
  constructor
  · rintro ⟨⟨id, hid, hid'⟩, name, hname, hname'⟩
    exact ⟨id, name, hid, hid', hname, hname'⟩
  · rintro ⟨id, name, hid, hid', hname, hname'⟩
    exact ⟨⟨id, hid, hid'⟩, name, hname, hname'⟩

theorem checkIdentified_of_forall {fields : List Field} (h : ∀ field ∈ fields, field.HasIdentity)
    (index : Nat) : checkIdentified index fields = .value () := by
  induction fields generalizing index with
  | nil => rfl
  | cons field fields ih =>
    have hfield := (Field.isIdentified_iff field).mpr (h field List.mem_cons_self)
    rw [checkIdentified, if_pos hfield]
    exact ih (fun f hf => h f (List.mem_cons_of_mem field hf)) (index + 1)

theorem checkIdentified_of_first {fields : List Field} {i : Nat} {field : Field}
    (hfield : fields[i]? = some field) (hlacks : ¬ field.HasIdentity)
    (hbefore : ∀ k < i, ∀ earlier, fields[k]? = some earlier → earlier.HasIdentity) (index : Nat) :
    checkIdentified index fields = .fault (.unidentified (index + i) field.typeName) := by
  induction fields generalizing i index with
  | nil => simp at hfield
  | cons first fields ih =>
    cases i with
    | zero =>
      obtain rfl : first = field := by simpa using hfield
      rw [checkIdentified, if_neg (by rwa [Field.isIdentified_iff])]
      rfl
    | succ i =>
      have hfirst := (Field.isIdentified_iff first).mpr (hbefore 0 (by omega) first rfl)
      have hlater : ∀ k < i, ∀ earlier, fields[k]? = some earlier → earlier.HasIdentity := by
        intro k hk earlier hearlier
        exact hbefore (k + 1) (by omega) earlier (by simpa using hearlier)
      rw [checkIdentified, if_pos hfirst, ih (by simpa using hfield) hlater, Nat.add_right_comm,
        Nat.add_assoc]

end RecordTypes
