import RecordTypes.Proofs.Reading.Base

/-! What a field that was read was read from: an object whose `type` names a form, the heading among
its members, and either the options of that form or another field as a result. -/

namespace RecordTypes

theorem Guard.opening_of_opens {α : Type} {guard : Guard} {type : FieldType}
    (h : guard.opens type = true) (reading : Reading α) : guard.opening type reading = reading :=
  if_pos h

theorem Guard.opening_eq_value {α : Type} {guard : Guard} {type : FieldType} {reading : Reading α}
    {a : α} (h : guard.opening type reading = .value a) :
    guard.opens type = true ∧ reading = .value a := by
  unfold opening at h
  split at h
  · rename_i hopens
    exact ⟨hopens, h⟩
  · cases h

/-- The ways in which a field comes from members that a guard lets open. -/
inductive FieldFrom (guard : Guard) (members : Members) : Field → Prop where
  | computed {type : ComputedType} {heading : Heading} {raw : Json} {result : Field}
      (hform : formOf FieldType members = .ok (.computed type))
      (hopens : guard.opens (.computed type) = true)
      (hheading : readHeading members = .value heading)
      (hraw : rawResult members = .value (some raw))
      (hresult : readFieldWith guard.below raw = .value result) :
      FieldFrom guard members (.computed heading type result)
  | unresolved {type : ComputedType} {heading : Heading}
      (hform : formOf FieldType members = .ok (.computed type))
      (hopens : guard.opens (.computed type) = true)
      (hheading : readHeading members = .value heading)
      (hraw : rawResult members = .value none) :
      FieldFrom guard members (.plain heading (.unresolved type))
  | plain {type : FieldType} {heading : Heading} {shape : Shape}
      (hform : formOf FieldType members = .ok type)
      (hplain : ∀ t, type ≠ .computed t)
      (hopens : guard.opens type = true)
      (hheading : readHeading members = .value heading)
      (hshape : readShape guard members type = .value shape) :
      FieldFrom guard members (.plain heading shape)

theorem readFieldWith_computed (guard : Guard) {members : Members} {type : ComputedType}
    (h : formOf FieldType members = .ok (.computed type)) :
    readFieldWith guard (.obj members) = Reading.under (.tag (Named.name type))
      (guard.opening (.computed type) <|
        match rawResult members with
        | .value (some raw) =>
          (Field.computed · type ·) <$> readHeading members <*>
            ((readFieldWith guard.below raw).under (.key "result")).under (.key "options")
        | .value none => (Field.plain · (.unresolved type)) <$> readHeading members
        | .faulty issues => Field.plain <$> readHeading members <*> .faulty issues) := by
  rw [readFieldWith, h]
  cases rawResult members with
  | value raw => cases raw <;> rfl
  | faulty issues => rfl

theorem readFieldWith_plain (guard : Guard) {members : Members} {type : FieldType}
    (h : formOf FieldType members = .ok type) (hplain : ∀ t, type ≠ .computed t) :
    readFieldWith guard (.obj members) = Reading.under (.tag (Named.name type))
      (guard.opening type <|
        Field.plain <$> readHeading members <*> readShape guard members type) := by
  rw [readFieldWith, h]
  cases type with
  | computed type => exact absurd rfl (hplain type)
  | _ => rfl

theorem FieldFrom.readFieldWith_eq {guard : Guard} {members : Members} {field : Field}
    (h : FieldFrom guard members field) : readFieldWith guard (.obj members) = .value field := by
  cases h with
  | computed hform hopens hheading hraw hresult =>
    rw [readFieldWith_computed guard hform, Guard.opening_of_opens hopens, hheading, hraw]
    dsimp only
    rw [hresult]
    rfl
  | unresolved hform hopens hheading hraw =>
    rw [readFieldWith_computed guard hform, Guard.opening_of_opens hopens, hheading, hraw]
    rfl
  | plain hform hplain hopens hheading hshape =>
    rw [readFieldWith_plain guard hform hplain, Guard.opening_of_opens hopens, hheading, hshape]
    rfl

theorem fieldFrom_of_computed {guard : Guard} {members : Members} {type : ComputedType}
    {field : Field} (hform : formOf FieldType members = .ok (.computed type))
    (h : readFieldWith guard (.obj members) = .value field) : FieldFrom guard members field := by
  rw [readFieldWith_computed guard hform] at h
  obtain ⟨hopens, hread⟩ := Guard.opening_eq_value (Reading.under_eq_value h)
  cases hraw : rawResult members with
  | value raw =>
    rw [hraw] at hread
    cases raw with
    | some raw =>
      obtain ⟨ofResult, result, hofResult, hresult, rfl⟩ := Reading.seq_eq_value hread
      obtain ⟨heading, hheading, rfl⟩ := Reading.map_eq_value hofResult
      exact .computed hform hopens hheading hraw
        (Reading.under_eq_value (Reading.under_eq_value hresult))
    | none =>
      obtain ⟨heading, hheading, rfl⟩ := Reading.map_eq_value hread
      exact .unresolved hform hopens hheading hraw
  | faulty issues =>
    rw [hraw] at hread
    obtain ⟨ofShape, shape, -, hshape, -⟩ := Reading.seq_eq_value hread
    cases hshape

theorem fieldFrom_of_plain {guard : Guard} {members : Members} {type : FieldType} {field : Field}
    (hform : formOf FieldType members = .ok type) (hplain : ∀ t, type ≠ .computed t)
    (h : readFieldWith guard (.obj members) = .value field) : FieldFrom guard members field := by
  rw [readFieldWith_plain guard hform hplain] at h
  obtain ⟨hopens, hread⟩ := Guard.opening_eq_value (Reading.under_eq_value h)
  obtain ⟨ofShape, shape, hofShape, hshape, rfl⟩ := Reading.seq_eq_value hread
  obtain ⟨heading, hheading, rfl⟩ := Reading.map_eq_value hofShape
  exact .plain hform hplain hopens hheading hshape

theorem readFieldWith_eq_value_iff {guard : Guard} {raw : Json} {field : Field} :
    readFieldWith guard raw = .value field ↔
      ∃ members, raw = .obj members ∧ FieldFrom guard members field := by
  constructor
  · intro h
    cases raw with
    | obj members =>
      refine ⟨members, rfl, ?_⟩
      cases hform : formOf FieldType members with
      | ok type =>
        by_cases hplain : ∀ t, type ≠ .computed t
        · exact fieldFrom_of_plain hform hplain h
        · obtain ⟨t, rfl⟩ : ∃ t, type = .computed t := by simpa using hplain
          exact fieldFrom_of_computed hform h
      | error fault =>
        rw [readFieldWith, hform] at h
        cases h
    | _ =>
      rw [readFieldWith] at h
      · cases h
      · intro members hmembers
        cases hmembers
  · rintro ⟨members, rfl, hfrom⟩
    exact hfrom.readFieldWith_eq

end RecordTypes
