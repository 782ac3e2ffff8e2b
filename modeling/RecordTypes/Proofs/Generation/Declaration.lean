import RecordTypes.Proofs.Generation.Outcome

/-! What an assembly declares against what it has registered. Names are registered before it is
known where in the lines they will stand, so that the two agree is more than a matter of order. -/

namespace RecordTypes

namespace Target

def assembledNames (target : Target) (fieldIds : Bool) (tables : List Table) : List String :=
  (target.written (allFields tables)).flatMap (fun declaration => declaration.identifiers) ++
    tables.flatMap (target.tableNames fieldIds) ++
    if fieldIds then target.lookupIdentifiers else []

theorem declares_sharedBlock (target : Target) (fields : List Field) :
    target.Declares (target.sharedBlock fields)
      ((target.written fields).flatMap fun declaration => declaration.identifiers) :=
  Declares.flatMap fun declaration hdeclaration =>
    target.declares_shared declaration (List.mem_filter.mp hdeclaration).1

theorem declares_assemble (target : Target) (fieldIds : Bool) (base : Base) (tables : List Table) :
    target.Declares (assemble target fieldIds base tables).lines
      (target.assembledNames fieldIds tables) := by
  have hstart :=
    (target.declares_header base).append (target.declares_sharedBlock (allFields tables))
  have htables : target.Declares (target.tableBlocks fieldIds tables)
      (tables.flatMap (target.tableNames fieldIds)) :=
    Declares.flatMap fun table _ => target.declares_table fieldIds table
  have hlookups : target.Declares (target.lookupBlock fieldIds tables)
      (if fieldIds then target.lookupIdentifiers else []) := by
    cases fieldIds with
    | true => exact target.declares_tableLookups tables
    | false => exact Declares.nil target
  rw [assemble_eq]
  exact (hstart.append htables).append hlookups

theorem registeredFrom_identifiers (source : String) (identifiers : List String) :
    (registeredFrom source identifiers).map Registration.identifier = identifiers := by
  simp [registeredFrom, Function.comp_def]

theorem assembledNames_perm (target : Target) (fieldIds : Bool) (tables : List Table) :
    (target.importedNames ++ target.assembledNames fieldIds tables).Perm
      ((target.allRegistrations fieldIds tables).map Registration.identifier) := by
  have htables : (tables.flatMap (target.tableNames fieldIds)).Perm
      ((tables.flatMap fun table => target.registrations table fieldIds).map
        Registration.identifier) := by
    rw [List.map_flatMap]
    exact List.Perm.flatMap_left tables fun table _ => target.tableNames_perm fieldIds table
  have hlookups : (if fieldIds then target.lookupIdentifiers else []) =
      (if fieldIds then registeredFrom fromLookups target.lookupIdentifiers else []).map
        Registration.identifier := by
    cases fieldIds <;> simp [registeredFrom_identifiers]
  simp only [assembledNames, allRegistrations, List.map_append, List.map_flatMap,
    registeredFrom_identifiers, ← hlookups, List.append_assoc]
  rw [← List.map_flatMap]
  exact ((htables.append_right _).append_left _).append_left _

theorem declaredNames_perm (target : Target) (fieldIds : Bool) (base : Base) (tables : List Table) :
    (target.importedNames ++
        target.declaredNames (assemble target fieldIds base tables).lines).Perm
      ((assemble target fieldIds base tables).registrations.map Registration.identifier) := by
  rw [(target.declares_assemble fieldIds base tables).names_eq, assemble_eq]
  exact target.assembledNames_perm fieldIds tables

end Target

theorem nodup_declaredNames {options : GenerationOptions} {selected : List Table}
    (h : (options.identifiers selected).Nodup) (base : Base) :
    (options.target.importedNames ++ options.target.declaredNames
      (assemble options.target options.fieldIds base selected).lines).Nodup := by
  have hperm := options.target.declaredNames_perm options.fieldIds base selected
  rw [assemble_eq] at hperm ⊢
  exact hperm.nodup_iff.mpr h

theorem generate_eq_ok {base : Base} {tables : List Table} {options : GenerationOptions}
    {text : String} (h : generate base tables options = .ok text) :
    ∃ selected, selectIf tables options.requested = .ok selected ∧
      text = (assemble options.target options.fieldIds base selected).text ∧
      (options.identifiers selected).Nodup := by
  cases hselect : selectIf tables options.requested with
  | error u =>
    rw [generate_of_error base tables options hselect] at h
    cases h
  | ok selected =>
    by_cases hnodup : (options.identifiers selected).Nodup
    · rw [generate_of_nodup base tables options hselect hnodup] at h
      cases h
      exact ⟨selected, rfl, rfl, hnodup⟩
    · obtain ⟨cs, hcs, -⟩ := generate_of_not_nodup base tables options hselect hnodup
      rw [hcs] at h
      cases h

/-- The lines of an assembly declare exactly what it has registered, apart from the imported names,
and as often. So no text declares a name twice, or one that it has imported. -/
theorem declaredNames_assemble (base : Base) (tables : List Table) :
    (∀ (target : Target) (fieldIds : Bool), (target.importedNames ++
        target.declaredNames (assemble target fieldIds base tables).lines).Perm
      ((assemble target fieldIds base tables).registrations.map Registration.identifier)) ∧
    ∀ (options : GenerationOptions) (text : String), generate base tables options = .ok text →
      ∃ selected, selectIf tables options.requested = .ok selected ∧
        text = (assemble options.target options.fieldIds base selected).text ∧
        (options.target.importedNames ++ options.target.declaredNames
          (assemble options.target options.fieldIds base selected).lines).Nodup := by
  refine ⟨fun target fieldIds => target.declaredNames_perm fieldIds base tables,
    fun options text htext => ?_⟩
  obtain ⟨selected, hselect, rfl, hnodup⟩ := generate_eq_ok htext
  exact ⟨selected, hselect, rfl, nodup_declaredNames hnodup base⟩

end RecordTypes
