import RecordTypes.Proofs.Generation.Assembly
import RecordTypes.Proofs.Target.Expression

/-! Declarations that tables share are written once, before the tables, and none is written that no
type of a field goes by. -/

namespace RecordTypes

namespace Target

theorem exists_identifier_of_scalar (target : Target) : ∀ declaration ∈ target.sharedDeclarations,
    ∀ s : Scalar, s.shape? = some declaration.shape → (∀ names, s ≠ .oneOf names) ∧
      (CodeState.start.after (target.scalar none s).toList).isCode = true ∧
      ∃ name ∈ declaration.identifiers, name ∈ usedNames (target.scalar none s).toList := by
  -- Only these scalars have a shape, so that all of them can be gone through.
  have hshapes : ∀ declaration ∈ target.sharedDeclarations,
      ∀ s ∈ [Scalar.attachment, .collaborator, .barcode, .button, .email],
        s.shape? = some declaration.shape →
          (CodeState.start.after (target.scalar none s).toList).isCode = true ∧
          ∃ name ∈ declaration.identifiers, name ∈ usedNames (target.scalar none s).toList := by
    cases target <;> decide +kernel
  intro declaration hdeclaration s hs
  have hmem : s ∈ [Scalar.attachment, .collaborator, .barcode, .button, .email] := by
    cases s with
    | attachment | collaborator | barcode | button | email => decide
    | _ => cases hs
  refine ⟨?_, hshapes declaration hdeclaration s hmem hs⟩
  rintro names rfl
  cases hs

theorem exists_identifier_of_shape? {target : Target} {declaration : SharedDeclaration}
    (hdeclaration : declaration ∈ target.sharedDeclarations) (enumeration? : Option String)
    {v : ValueType} (h : v.shape? = some declaration.shape) :
    ∃ name ∈ declaration.identifiers,
      name ∈ usedNames (target.expression enumeration? v).toList := by
  cases v with
  | one s =>
    obtain ⟨hne, -, name, hname, hused⟩ :=
      target.exists_identifier_of_scalar declaration hdeclaration s h
    rw [expression, target.scalar_eq_none enumeration? hne]
    exact ⟨name, hname, hused⟩
  | many s =>
    obtain ⟨hne, hclosed, name, hname, hused⟩ :=
      target.exists_identifier_of_scalar declaration hdeclaration s h
    rw [expression, target.scalar_eq_none enumeration? hne]
    exact ⟨name, hname, target.mem_usedNames_list hclosed hused⟩
  | mixed => cases h

theorem nodup_shapes (target : Target) :
    (target.sharedDeclarations.map SharedDeclaration.shape).Nodup := by
  cases target <;> decide

end Target

/-- Between the header and the first table stand some of the shared declarations in their order, no
two for one shape. For each there is a field that yields its shape, so that the type of the field
goes by one of its identifiers. -/
theorem sharedDeclarations_of_assemble (target : Target) (fieldIds : Bool) (base : Base)
    (tables : List Table) :
    ∃ written : List SharedDeclaration, written.Sublist target.sharedDeclarations ∧
      (written.map SharedDeclaration.shape).Nodup ∧
      (assemble target fieldIds base tables).lines =
        target.header base ++ written.flatMap target.sharedLines ++
          tables.flatMap (target.tableLines fieldIds) ++ target.lookupBlock fieldIds tables ∧
      ∀ declaration ∈ written, ∃ table ∈ tables, ∃ field ∈ table.fields,
        field.Yields declaration.shape ∧ ∃ name ∈ declaration.identifiers,
          name ∈ usedNames (target.fieldExpression table.name field).toList := by
  have hwritten : (target.written (allFields tables)).Sublist target.sharedDeclarations :=
    List.filter_sublist
  refine ⟨target.written (allFields tables), hwritten,
    target.nodup_shapes.sublist (hwritten.map _), by rw [assemble_eq]; rfl, ?_⟩
  intro declaration hdeclaration
  obtain ⟨hshared, href⟩ := List.mem_filter.mp hdeclaration
  obtain ⟨field, hfield, hrefers⟩ := List.any_eq_true.mp href
  obtain ⟨table, htable, hmem⟩ := List.mem_flatMap.mp hfield
  have hyields := Field.yields_of_references hrefers
  exact ⟨table, htable, field, hmem, hyields,
    Target.exists_identifier_of_shape? hshared _ hyields.shape?_eq⟩

end RecordTypes
