import RecordTypes.Proofs.Metadata.Named
import RecordTypes.Target.Descriptor

/-! When a type can be written for a field that nobody checked. It can be if the field has the
options of its type, as every field does that was read. A type without meaning is an error as long
as there are only formulas and rollups around it, for these hold what it holds; a lookup around it
asks for no more than that it is no number. -/

namespace RecordTypes

theorem ofName?_computed (type : ComputedType) :
    (Named.ofName? (Named.name type) : Option FieldType) = some (.computed type) :=
  LawfulNamed.ofName?_name (FieldType.computed type)

theorem ofName?_computed_eq_none {s : String} (h : (Named.ofName? s : Option FieldType) = none) :
    (Named.ofName? s : Option ComputedType) = none := by
  cases hname : (Named.ofName? s : Option ComputedType) with
  | none => rfl
  | some type =>
    rw [← Named.name_of_ofName? hname, ofName?_computed] at h
    cases h

theorem ofName?_eq_some_computed {type : FieldType} {c : ComputedType}
    (h : (Named.ofName? (Named.name type) : Option ComputedType) = some c) :
    type = .computed c := by
  have hname := ofName?_computed c
  rw [Named.name_of_ofName? h, LawfulNamed.ofName?_name] at hname
  exact Option.some.inj hname

namespace Descriptor

/-! ## Fields that were read -/

theorem plainValue_of_stated {d : Descriptor} {shape : Shape} (h : d.options = shape.stated)
    (target : Target) : d.plainValue target shape.type = .ok shape.valueType := by
  rw [plainValue, h]
  cases shape with
  | basic type options => rfl
  | temporal format => cases format <;> rfl
  | timestamp type result => cases type <;> rfl
  | choice type choices => cases type <;> rfl
  | _ => rfl

theorem gathered_valueType_type {shape : Shape} (h : shape.type.isNumeric = false) :
    shape.type.valueType.gathered = shape.valueType.gathered := by
  have hselected (choices : List Choice) :
      ValueType.gathered (.one (selected choices)) = .many .text ∧
        ValueType.gathered (.many (selected choices)) = .many .text := by
    unfold selected
    split <;> exact ⟨rfl, rfl⟩
  cases shape with
  | basic type options => rfl
  | choice type choices =>
    cases type with
    | singleSelect => exact (hselected choices).1.symm
    | multipleSelects => exact (hselected choices).2.symm
    | externalSyncSource => rfl
  | temporal format => cases format <;> rfl
  | timestamp type result => cases type <;> rfl
  | unresolved type => cases type <;> rfl
  | _ => cases h

theorem descriptor_plain (heading : Heading) (shape : Shape) :
    (Field.plain heading shape).descriptor.type = Named.name shape.type ∧
      (Field.plain heading shape).descriptor.options = shape.stated := by
  cases shape with
  | timestamp type result => cases result <;> exact ⟨rfl, rfl⟩
  | _ => exact ⟨rfl, rfl⟩

theorem judged_plain (target : Target) (heading : Heading) (shape : Shape) :
    (Field.plain heading shape).descriptor.judged target = .ok shape.valueType.gathered := by
  obtain ⟨htype, hoptions⟩ := descriptor_plain heading shape
  have hvalue := plainValue_of_stated hoptions target
  rw [judged, htype, LawfulNamed.ofName?_name]
  cases hnumeric : shape.type.isNumeric with
  | true => simp [hnumeric, hvalue, Except.map]
  | false => simp [hnumeric, gathered_valueType_type hnumeric]

theorem judged_of_computed {target : Target} {d : Descriptor} (type : ComputedType)
    (h : d.type = Named.name type) : d.judged target = .ok (.many .text) := by
  rw [judged, h, ofName?_computed]
  cases type <;> rfl

theorem evidence?_of_not_computed {d : Descriptor}
    (h : (Named.ofName? d.type : Option ComputedType) = none) : d.evidence? = some d := by
  rw [evidence?, h]

theorem evidence?_of_computed {d : Descriptor} (type : ComputedType)
    (h : d.type = Named.name type) :
    d.evidence? = if type.isSingle then d.result? else some d := by
  rw [evidence?, h, LawfulNamed.ofName?_name]

theorem gathered_descriptor (target : Target) (field : Field) :
    field.descriptor.gathered target = .ok field.gathered := by
  cases field with
  | plain heading shape =>
    obtain ⟨htype, -⟩ := descriptor_plain heading shape
    cases hname : (Named.ofName? (Named.name shape.type) : Option ComputedType) with
    | none =>
      rw [gathered, evidence?_of_not_computed (by rw [htype, hname])]
      dsimp only
      rw [judged_plain]
      cases shape with
      | unresolved type => cases type <;> cases hname
      | _ => rfl
    | some type =>
      have hcomputed := ofName?_eq_some_computed hname
      cases shape with
      | unresolved type => cases type <;> rfl
      | temporal format => cases format <;> cases hcomputed
      | _ => cases hcomputed
  | computed heading type result =>
    have hevidence :=
      evidence?_of_computed (d := (Field.computed heading type result).descriptor) type rfl
    rw [gathered, hevidence]
    cases type with
    | lookup => exact judged_of_computed .lookup rfl
    | _ =>
      change result.descriptor.judged target = _
      cases result with
      | plain heading shape => exact judged_plain target heading shape
      | computed heading type inner => exact judged_of_computed type rfl

theorem valueType_of_result?_eq_none {target : Target} {d : Descriptor} {type : FieldType}
    (hresult : d.result? = none) (htype : d.type = Named.name type) :
    d.valueType target = d.plainValue target type := by
  have hname : (Named.ofName? d.type : Option FieldType) = some type := by
    rw [htype, LawfulNamed.ofName?_name]
  cases d with
  | holding => cases hresult
  | _ =>
    simp only [Descriptor.type] at hname
    simp only [valueType, hname]

/-- What is known of a field that was read is enough to tell what it holds. -/
theorem valueType_descriptor (target : Target) (field : Field) :
    field.descriptor.valueType target = .ok field.valueType := by
  induction field with
  | plain heading shape =>
    obtain ⟨htype, hoptions⟩ := descriptor_plain heading shape
    have hvalue := plainValue_of_stated hoptions target
    by_cases hresult : (Field.plain heading shape).descriptor.result? = none
    · rw [valueType_of_result?_eq_none hresult htype, hvalue]
      rfl
    · cases shape with
      | timestamp type result => cases type <;> cases result <;> rfl
      | _ => exact absurd rfl hresult
  | computed heading type result ih =>
    simp only [Field.descriptor, valueType, ofName?_computed]
    cases type with
    | lookup => exact gathered_descriptor target result
    | _ => exact ih

theorem name_descriptor (field : Field) : field.descriptor.name = field.heading.name := by
  cases field with
  | plain heading shape =>
    cases shape with
    | timestamp type result => cases result <;> rfl
    | _ => rfl
  | computed => rfl

theorem enumeration?_descriptor (field : Field) (tableName : String) :
    field.descriptor.enumeration? tableName = field.enumeration? tableName := by
  have hlabel : field.descriptor.label = field.label := by
    rw [label, name_descriptor, Field.label]
  cases field with
  | plain heading shape =>
    obtain ⟨htype, hoptions⟩ := descriptor_plain heading shape
    rw [enumeration?, htype, LawfulNamed.ofName?_name, hoptions, hlabel]
    cases shape with
    | choice type choices =>
      cases type with
      | externalSyncSource => rfl
      | _ =>
        simp [Shape.type, Shape.stated, Field.enumeration?, Field.hasEnumeration, Field.choiceNames,
          enumerationName]
    | _ => rfl
  | computed heading type result =>
    rw [enumeration?]
    cases type <;> rfl

theorem expression_descriptor (target : Target) (tableName : String) (field : Field) :
    field.descriptor.expression target tableName = .ok (target.fieldExpression tableName field) := by
  rw [expression, valueType_descriptor, enumeration?_descriptor]
  rfl

/-! ## Types without meaning -/

theorem wrapped_cons (d : Descriptor) (wrapper : Wrapper) (wrappers : List Wrapper) :
    d.wrapped (wrapper :: wrappers) =
      .holding wrapper.name (Named.name wrapper.type) (d.wrapped wrappers) := rfl

section
variable {d : Descriptor} (h : (Named.ofName? d.type : Option FieldType) = none) (target : Target)
include h

theorem valueType_of_meaningless : d.valueType target = .error d.unrecognized := by
  cases d with
  | bare name type | stating name type options | holding name type result =>
    simp only [Descriptor.type] at h
    simp only [valueType, h]

theorem judged_of_meaningless : d.judged target = .ok (.many .text) := by
  rw [judged, h]

theorem judged_wrapped (wrappers : List Wrapper) :
    (d.wrapped wrappers).judged target = .ok (.many .text) := by
  cases wrappers with
  | nil => exact judged_of_meaningless h target
  | cons wrapper wrappers => exact judged_of_computed wrapper.type rfl

theorem gathered_wrapped (wrappers : List Wrapper) :
    (d.wrapped wrappers).gathered target = .ok (.many .text) := by
  cases wrappers with
  | nil =>
    change d.gathered target = _
    rw [gathered, evidence?_of_not_computed (ofName?_computed_eq_none h)]
    exact judged_of_meaningless h target
  | cons wrapper wrappers =>
    have hevidence := evidence?_of_computed (d := d.wrapped (wrapper :: wrappers)) wrapper.type rfl
    rw [gathered, hevidence]
    cases hsingle : wrapper.type.isSingle with
    | true => exact judged_wrapped h target wrappers
    | false => exact judged_wrapped h target (wrapper :: wrappers)

theorem valueType_wrapped_of_lookup {wrappers : List Wrapper}
    (hlookup : ∃ wrapper ∈ wrappers, wrapper.type = .lookup) :
    (d.wrapped wrappers).valueType target = .ok (.many .text) := by
  induction wrappers with
  | nil => simp at hlookup
  | cons wrapper wrappers ih =>
    have hgathered := gathered_wrapped h target wrappers
    obtain ⟨other, hmem, hother⟩ := hlookup
    rw [wrapped_cons, valueType, ofName?_computed]
    cases htype : wrapper.type with
    | lookup => exact hgathered
    | _ =>
      have hne : other ≠ wrapper := by
        rintro rfl
        simp [htype] at hother
      exact ih ⟨other, (List.mem_cons.mp hmem).resolve_left hne, hother⟩

theorem valueType_wrapped_of_single {wrappers : List Wrapper}
    (hsingle : ∀ wrapper ∈ wrappers, wrapper.type ≠ .lookup) :
    (d.wrapped wrappers).valueType target = .error d.unrecognized := by
  induction wrappers with
  | nil => exact valueType_of_meaningless h target
  | cons wrapper wrappers ih =>
    obtain ⟨hfirst, hrest⟩ := List.forall_mem_cons.mp hsingle
    rw [wrapped_cons, valueType, ofName?_computed]
    cases htype : wrapper.type with
    | lookup => exact absurd htype hfirst
    | _ => exact ih hrest

end

theorem enumeration?_wrapped {d : Descriptor} {wrappers : List Wrapper} (h : wrappers ≠ [])
    (tableName : String) : (d.wrapped wrappers).enumeration? tableName = none := by
  cases wrappers with
  | nil => exact absurd rfl h
  | cons wrapper wrappers =>
    rw [wrapped_cons, enumeration?]
    cases wrapper.type <;> rfl

end Descriptor

/-- The type of a field that was read can be written in every target, and is the one declared for
it. A type without meaning cannot be written, and neither can formulas and rollups around it: the
error tells of the innermost field. With a lookup anywhere around it, it is a list of text. -/
theorem expression_total_or_unrecognized (target : Target) (tableName : String) :
    (∀ field : Field, field.descriptor.expression target tableName =
      .ok (target.fieldExpression tableName field)) ∧
    ∀ d : Descriptor, d.type ∉ Named.names FieldType → ∀ wrappers : List Wrapper,
      ((∀ wrapper ∈ wrappers, wrapper.type ≠ .lookup) →
        (d.wrapped wrappers).expression target tableName =
          .error (.unrecognized ⟨d.label, d.type⟩)) ∧
      ((∃ wrapper ∈ wrappers, wrapper.type = .lookup) →
        (d.wrapped wrappers).expression target tableName =
          .ok (target.expression none (.many .text))) := by
  refine ⟨Descriptor.expression_descriptor target tableName, ?_⟩
  intro d htype wrappers
  have hnone := Named.ofName?_eq_none_iff.mpr htype
  constructor
  · intro hsingle
    rw [Descriptor.expression, Descriptor.valueType_wrapped_of_single hnone target hsingle]
    rfl
  · intro hlookup
    have hne : wrappers ≠ [] := by
      rintro rfl
      simp at hlookup
    rw [Descriptor.expression, Descriptor.valueType_wrapped_of_lookup hnone target hlookup,
      Descriptor.enumeration?_wrapped hne]
    rfl

def mystery : Descriptor := .bare (some "Mystery") "aiText"

theorem mystery_unrecognized_or_listed :
    mystery.type ∉ Named.names FieldType ∧
    (mystery.wrapped [⟨some "Total", .rollup⟩, ⟨none, .formula⟩]).expression .zod "Assets" =
      .error (.unrecognized ⟨"Mystery", "aiText"⟩) ∧
    (mystery.wrapped [⟨some "Total", .rollup⟩, ⟨none, .lookup⟩]).expression .zod "Assets" =
      .ok "z.array(z.string())" := by
  have htype : mystery.type ∉ Named.names FieldType := by decide
  have hmystery := (expression_total_or_unrecognized .zod "Assets").2 mystery htype
  exact ⟨htype, (hmystery _).1 (by decide), (hmystery _).2 (by decide)⟩

end RecordTypes
