import RecordTypes.Value.Field
import RecordTypes.Value.Reference

/-! The shared shapes that values have, against those that a field refers to. The two agree but for
lookups that find attachments in the result of a formula or rollup. -/

namespace RecordTypes

def Scalar.shape? : Scalar → Option SharedShape
  | .attachment => some .attachment
  | .collaborator => some .collaborator
  | .barcode => some .barcode
  | .button => some .button
  | .email => some .email
  | _ => none

def ValueType.shape? : ValueType → Option SharedShape
  | .one s | .many s => s.shape?
  | .mixed => none

/-- A lookup of attachments that lie behind a formula or rollup, or a formula or rollup with such a
result. -/
def Field.hidesAttachments : Field → Bool
  | .plain .. => false
  | .computed _ .lookup (.computed _ type (.plain _ shape)) =>
    type.isSingle && shape.type == .basic .multipleAttachments
  | .computed _ .lookup _ => false
  | .computed _ _ result => result.hidesAttachments

theorem shape?_selected (choices : List Choice) : (selected choices).shape? = none := by
  unfold selected
  split <;> rfl

theorem Shape.mem_types_of_shape? {s : Shape} {shape : SharedShape}
    (h : s.valueType.shape? = some shape) : s.type ∈ shape.types := by
  cases s with
  | basic type options =>
    cases type <;> cases h <;> simp [Shape.type, SharedShape.types]
  | choice type choices =>
    cases type with
    | externalSyncSource => cases h
    | _ =>
      change (selected choices).shape? = some shape at h
      rw [shape?_selected] at h
      cases h
  | temporal format => cases format <;> cases h
  | timestamp type result => cases type <;> cases h
  | unresolved type => cases type <;> cases h
  | _ => cases h

theorem Shape.valueType_eq_attachment_iff (s : Shape) :
    s.valueType = .many .attachment ↔ s.type = .basic .multipleAttachments := by
  constructor
  · intro h
    have hshape : s.valueType.shape? = some .attachment := by
      rw [h]
      rfl
    have hmem := Shape.mem_types_of_shape? hshape
    simpa [SharedShape.types] using hmem
  · intro h
    cases s with
    | basic type options =>
      cases h
      rfl
    | _ => cases h

theorem ValueType.shape?_gathered {v : ValueType} {shape : SharedShape}
    (h : v.gathered.shape? = some shape) : shape = .attachment ∧ v = .many .attachment := by
  cases v with
  | one s => cases s <;> cases h
  | many s =>
    cases s <;> cases h
    exact ⟨rfl, rfl⟩
  | mixed => cases h

theorem Field.shape?_gathered {field : Field} {shape : SharedShape}
    (h : field.gathered.shape? = some shape) :
    shape = .attachment ∧ (field.type = .basic .multipleAttachments ∨
      ∃ heading heading' type s, type.isSingle = true ∧ s.type = .basic .multipleAttachments ∧
        field = .computed heading type (.plain heading' s)) := by
  unfold Field.gathered at h
  split at h
  · cases h
  · cases h
  · rename_i s _ _
    obtain ⟨rfl, hs⟩ := ValueType.shape?_gathered h
    exact ⟨rfl, Or.inl ((Shape.valueType_eq_attachment_iff s).mp hs)⟩
  · cases h
  · rename_i heading type heading' s hne
    obtain ⟨rfl, hs⟩ := ValueType.shape?_gathered h
    have hsingle : type.isSingle = true := by
      cases type with
      | lookup => exact (hne rfl).elim
      | _ => rfl
    exact ⟨rfl, Or.inr ⟨heading, heading', type, s, hsingle,
      (Shape.valueType_eq_attachment_iff s).mp hs, rfl⟩⟩
  · cases h

theorem Field.references_plain {heading : Heading} {s : Shape} {shape : SharedShape} :
    (Field.plain heading s).references shape = shape.types.contains s.type := by
  simp [Field.references, Field.referencedTypes]

theorem Field.references_single {heading : Heading} {type : ComputedType} {result : Field}
    (htype : type.isSingle = true) (shape : SharedShape) :
    (Field.computed heading type result).references shape = result.references shape := by
  have hown : shape.types.contains (.computed type) = false := by
    cases shape <;> cases type <;> decide
  cases type with
  | lookup => cases htype
  | _ => simp only [Field.references, Field.referencedTypes, List.any_cons, hown, Bool.false_or]

theorem Field.references_of_shape? {field : Field} {shape : SharedShape}
    (h : field.valueType.shape? = some shape) :
    field.references shape = true ∨ (shape = .attachment ∧ field.hidesAttachments = true) := by
  induction field with
  | plain heading s =>
    left
    rw [Field.references_plain]
    simpa using Shape.mem_types_of_shape? h
  | computed heading type result ih =>
    cases type with
    | lookup =>
      obtain ⟨rfl, hdirect | ⟨heading', heading'', type, s, hsingle, hs, rfl⟩⟩ :=
        Field.shape?_gathered h
      · left
        simp [Field.references, Field.referencedTypes, hdirect, SharedShape.types]
      · right
        simp [Field.hidesAttachments, hsingle, hs]
    | _ =>
      rw [Field.references_single rfl]
      exact ih h

theorem Field.shape?_of_hidesAttachments {field : Field} (h : field.hidesAttachments = true) :
    field.valueType.shape? = some .attachment ∧ field.references .attachment = false := by
  induction field with
  | plain heading s => cases h
  | computed heading type result ih =>
    cases type with
    | lookup =>
      cases result with
      | plain => cases h
      | computed heading' type inner =>
        cases inner with
        | computed => cases h
        | plain heading'' s =>
          simp only [Field.hidesAttachments, Bool.and_eq_true, beq_iff_eq] at h
          obtain ⟨hsingle, hs⟩ := h
          have hv := (Shape.valueType_eq_attachment_iff s).mpr hs
          cases type with
          | lookup => cases hsingle
          | _ =>
            refine ⟨?_, by rfl⟩
            simp only [Field.valueType, Field.gathered, hv]
            rfl
    | _ =>
      rw [Field.references_single rfl]
      exact ih h

/-! ## Fields that yield a shape -/

/-- A field of whose values the shape is known: its own type has it, or its result has, or it looks
up attachments. -/
inductive Field.Yields (shape : SharedShape) : Field → Prop
  | direct {heading : Heading} {s : Shape} :
      s.type ∈ shape.types → Yields shape (.plain heading s)
  | result {heading : Heading} {type : ComputedType} {result : Field} :
      type.isSingle = true → Yields shape result → Yields shape (.computed heading type result)
  | lookup {heading heading' : Heading} {s : Shape} : shape = .attachment →
      s.type = .basic .multipleAttachments →
      Yields shape (.computed heading .lookup (.plain heading' s))

theorem Shape.shape?_of_mem_types {s : Shape} {shape : SharedShape} (h : s.type ∈ shape.types) :
    s.valueType.shape? = some shape := by
  cases s with
  | basic type options =>
    cases shape <;> cases type <;> first | rfl | simp [Shape.type, SharedShape.types] at h
  | _ => cases shape <;> simp [Shape.type, SharedShape.types] at h

theorem Field.exists_plain_of_type_eq {field : Field}
    (h : field.type = .basic .multipleAttachments) :
    ∃ heading s, s.type = .basic .multipleAttachments ∧ field = .plain heading s := by
  cases field with
  | plain heading s => exact ⟨heading, s, h, rfl⟩
  | computed => cases h

theorem Field.references_lookup {heading : Heading} {result : Field} {shape : SharedShape} :
    (Field.computed heading .lookup result).references shape = true ↔
      shape = .attachment ∧ result.type = .basic .multipleAttachments := by
  by_cases h : result.type = .basic .multipleAttachments
  · cases shape <;> simp [Field.references, Field.referencedTypes, h, SharedShape.types]
  · cases shape <;> simp [Field.references, Field.referencedTypes, h, SharedShape.types]

theorem Field.yields_of_references {field : Field} {shape : SharedShape}
    (h : field.references shape = true) : field.Yields shape := by
  induction field with
  | plain heading s =>
    rw [Field.references_plain] at h
    exact .direct (by simpa using h)
  | computed heading type result ih =>
    cases type with
    | lookup =>
      obtain ⟨rfl, htype⟩ := Field.references_lookup.mp h
      obtain ⟨heading', s, hs, rfl⟩ := Field.exists_plain_of_type_eq htype
      exact .lookup rfl hs
    | _ =>
      rw [Field.references_single rfl] at h
      exact .result rfl (ih h)

theorem Field.Yields.shape?_eq {field : Field} {shape : SharedShape} (h : field.Yields shape) :
    field.valueType.shape? = some shape := by
  induction h with
  | direct htype => exact Shape.shape?_of_mem_types htype
  | @result heading type result hsingle _ ih =>
    cases type with
    | lookup => cases hsingle
    | _ => exact ih
  | @lookup heading heading' s hshape hs =>
    subst hshape
    cases s with
    | basic type options =>
      cases hs
      rfl
    | _ => cases hs

end RecordTypes
