import Mathlib.Data.List.Nodup
import RecordTypes.Proofs.Generation.Lookup
import RecordTypes.Proofs.Target.Enumeration
import RecordTypes.Proofs.Target.Record

/-! The enumerations of a generation. Which fields get one is settled before the lines for a table
are written, and which rows refer to one while they are; the two come to the same fields. -/

namespace RecordTypes

namespace Target

/-! ## Enumerations of a table -/

theorem enumerationNames_eq (target : Target) (table : Table) :
    table.fields.flatMap (target.enumerationNames table) =
      (target.tableEnumerations table).map ReadEnumeration.name := by
  rw [tableEnumerations]
  cases hmode : target.mode with
  | types =>
    refine List.flatMap_eq_nil_iff.mpr fun field _ => ?_
    cases target with
    | zod | model => cases hmode
    | interface | typedDict => rfl
  | schemas =>
    have hnames (field : Field) :
        target.enumerationNames table field = (field.enumeration? table.name).toList := by
      cases target with
      | interface | typedDict => cases hmode
      | zod | model => rfl
    dsimp only
    induction table.fields with
    | nil => rfl
    | cons field fields ih =>
      rw [List.flatMap_cons, ih, hnames]
      cases h : field.hasEnumeration with
      | true => simp [Field.enumeration?, h, Table.enumeration]
      | false => simp [Field.enumeration?, h]

/-- What the row of a field refers to. If the field selects among choices, that is its enumeration.
Otherwise the row is the same whatever the table is called, and uses no names but those that all
tables share. -/
structure RefersAsDeclared (target : Target) (table : Table) (row : ReadRow) (field : Field) :
    Prop where
  selection : field.hasEnumeration = true →
    field.WritesSelection target row.expression (enumerationName table.name field)
  other : field.hasEnumeration = false →
    (∀ tableName, row.expression = target.fieldExpression tableName field) ∧
      UsesOnly (target.knownNames field.valueType.shape?) row.expression.toList

theorem refersAsDeclared_readBack {target : Target} (h : target.mode = .schemas) (table : Table)
    (field : Field) :
    target.RefersAsDeclared table (target.readBack (target.row table field)) field where
  selection henum := writesSelection_fieldExpression henum h table.name
  other hnone := by
    have hnames : field.choiceNames = [] := by simpa [Field.hasEnumeration] using hnone
    have hexpression (tableName : String) :
        target.fieldExpression tableName field = target.expression none field.valueType :=
      fieldExpression_of_choiceNames hnames target tableName
    have hrow : (target.readBack (target.row table field)).expression =
        target.expression none field.valueType := hexpression table.name
    rw [hrow]
    refine ⟨fun tableName => (hexpression tableName).symm, ?_⟩
    have hunnamed : ∀ name ∈ (none : Option String), IsName name.toList := by simp
    simpa using target.usesOnly_expression hunnamed field.valueType

/-- The lines for a table in three parts: one enumeration for each field that selects among choices,
in the order of the fields, then the record, whose rows refer to them, and what comes after it. -/
structure BeginsWithEnumerations (target : Target) (table : Table)
    (before record after : List String) : Prop where
  enumerations : target.readEnumerations before =
    (table.fields.filter Field.hasEnumeration).map table.enumeration
  names : target.declaredNames before =
    (table.fields.filter Field.hasEnumeration).map (enumerationName table.name)
  noLater : target.readEnumerations (record ++ after) = []
  noOther : target.readEnumerations (before ++ (record ++ after)) = target.readEnumerations before
  rows : List.Forall₂ (target.RefersAsDeclared table) (target.readRows record) table.fields

theorem beginsWithEnumerations {target : Target} (h : target.mode = .schemas) (fieldIds : Bool)
    (table : Table) :
    target.BeginsWithEnumerations table (target.enumerationBlock table) (target.recordLines table)
      (if fieldIds then target.fieldLookupLines table else []) := by
  have henumerations : target.tableEnumerations table =
      (table.fields.filter Field.hasEnumeration).map table.enumeration := by
    rw [tableEnumerations, h]
  have hbefore := target.readsAs_enumerationBlock table
  have hafter := (target.readsAs_recordLines table).append
    (target.readsAs_fieldLookups fieldIds table)
  rw [henumerations] at hbefore
  constructor
  · exact hbefore.read_eq rfl
  · rw [(target.declares_enumerationBlock table).names_eq, target.enumerationNames_eq,
      henumerations, List.map_map]
    rfl
  · exact hafter.read_eq rfl
  · rw [(hbefore.append hafter).read_eq rfl, hbefore.read_eq rfl, List.append_nil, List.append_nil]
  · rw [target.readRows_recordLines, List.forall₂_map_left_iff, List.forall₂_same]
    exact fun field _ => refersAsDeclared_readBack h table field

/-! ## Enumerations of an assembly -/

theorem readsAs_header (target : Target) (base : Base) :
    ReadsAs target.readEnumerations (target.header base) [] :=
  readsAs_of_undeclared (enumerationName?_of_silent (target.isSilent_header base))

theorem enumerationName?_typescriptShared (target : Target) :
    ∀ declaration ∈ [interfaceAttachment, interfaceCollaborator, zodAttachment, zodCollaborator],
      ∀ line ∈ declaration.lines, target.enumerationName? line = none := by
  simp only [interfaceAttachment, interfaceCollaborator, zodAttachment, zodCollaborator,
    List.forall_mem_cons]
  and_intros
  all_goals first
    | exact target.enumerationName?_of_chars (by decide)
    | exact List.forall_mem_nil _

theorem enumerationName?_sharedDeclarations (target : Target) :
    ∀ declaration ∈ target.sharedDeclarations,
      ∀ line ∈ declaration.lines, target.enumerationName? line = none :=
  forall_sharedDeclarations (fun _ => enumerationName?_of_opensNothing)
    target.enumerationName?_typescriptShared

theorem readsAs_sharedBlock (target : Target) (fields : List Field) :
    ReadsAs target.readEnumerations (target.sharedBlock fields) [] := by
  refine readsAs_of_undeclared (List.forall_mem_flatMap.mpr fun declaration hwritten => ?_)
  refine List.forall_mem_append.mpr ⟨target.enumerationName?_sharedDeclarations declaration
    (List.mem_filter.mp hwritten).1, enumerationName?_of_silent ?_⟩
  cases target <;> simp [language, isSilent_empty]

theorem readsAs_tableTypeLines (target : Target) (tables : List Table) :
    ReadsAs target.readEnumerations (target.tableTypeLines tables) [] := by
  cases target with
  | interface =>
    have hopening : interface.enumerationName?
        ("export interface " ++ tableTypeLookup ++ " \x7b") = none :=
      enumerationName?_of_ending _ _ (c := '\x7b') (by decide) (by decide)
    have hclosing : ∀ line ∈ ["\x7d", ""], interface.enumerationName? line = none := by decide
    refine readsAs_of_undeclared (List.forall_mem_cons.mpr ⟨hopening,
      List.forall_mem_append.mpr ⟨List.forall_mem_map.mpr fun table _ => ?_, hclosing⟩⟩)
    exact enumerationName?_of_undeclared (interface.declaredName?_of_blanks
      (by simp [memberLine, Dialect.indented, typescriptDialect]; rfl))
  | zod => exact zod.readsAs_lookup _ _ _ _ _
  | typedDict => exact typedDict.readsAs_lookup _ _ _ _ _
  | model => exact model.readsAs_lookup _ _ _ _ _

theorem readsAs_tableLookupLines (target : Target) (tables : List Table) :
    ReadsAs target.readEnumerations (target.tableLookupLines tables) [] := by
  have hids := target.readsAs_lookup tableIdLookup "str" "str" true
    (tables.map fun table => (table.name, table.id))
  exact hids.append (target.readsAs_tableTypeLines tables)

theorem readEnumerations_assemble (target : Target) (fieldIds : Bool) (base : Base)
    (tables : List Table) :
    target.readEnumerations (assemble target fieldIds base tables).lines =
      tables.flatMap target.tableEnumerations := by
  have hlookups : ReadsAs target.readEnumerations (target.lookupBlock fieldIds tables) [] := by
    cases fieldIds with
    | true => exact target.readsAs_tableLookupLines tables
    | false => exact fun _ => rfl
  have htables : ReadsAs target.readEnumerations (target.tableBlocks fieldIds tables)
      (tables.flatMap target.tableEnumerations) :=
    ReadsAs.flatMap fun table _ => target.readsAs_tableLines fieldIds table
  have hall := (((target.readsAs_header base).append
    (target.readsAs_sharedBlock (allFields tables))).append htables).append hlookups
  rw [assemble_eq, hall.read_eq rfl, List.nil_append, List.nil_append, List.append_nil]

theorem mem_declaredNames_assemble {target : Target} {tables : List Table}
    {enumeration : ReadEnumeration} (h : enumeration ∈ tables.flatMap target.tableEnumerations)
    (fieldIds : Bool) (base : Base) :
    enumeration.name ∈ target.declaredNames (assemble target fieldIds base tables).lines := by
  obtain ⟨table, htable, hmem⟩ := List.mem_flatMap.mp h
  have hname : enumeration.name ∈ target.tableNames fieldIds table := by
    rw [tableNames, enumerationNames_eq]
    exact List.mem_append_left _ (List.mem_append_left _ (List.mem_map_of_mem hmem))
  rw [(target.declares_assemble fieldIds base tables).names_eq, assembledNames]
  exact List.mem_append_left _
    (List.mem_append_right _ (List.mem_flatMap.mpr ⟨table, htable, hname⟩))

/-! ## Names in a text -/

theorem declaredIn_append_silent {target : Target} {silent : List String}
    (h : ∀ line ∈ silent, target.IsSilent line) (owner : String) (lines : List String) :
    target.declaredIn owner (lines ++ silent) = target.declaredIn owner lines := by
  induction lines generalizing owner with
  | nil => simpa using declaredIn_of_silent h owner []
  | cons line lines ih =>
    rw [List.cons_append, declaredIn, declaredIn]
    cases target.declaredName? line with
    | some name => simp only [ih]
    | none => simp only [ih]

theorem declaredNames_text {target : Target} {base : Base} {tables : List Table}
    (h : target.IdsFit base tables) (fieldIds : Bool) :
    target.declaredNames (textLines (assemble target fieldIds base tables).text) =
      target.declaredNames (assemble target fieldIds base tables).lines := by
  have hsilent {blanks : List String} (hblanks : ∀ line ∈ blanks, line = "") :
      ∀ line ∈ blanks, target.IsSilent line := by
    intro line hline
    rw [hblanks line hline]
    exact target.isSilent_empty
  obtain ⟨kept, blanks, hkept, hblanks, htext⟩ := Target.exists_textLines h fieldIds
  rw [htext, hkept, declaredNames, declaredNames, declaredIn_append_silent (hsilent hblanks),
    declaredIn_append_silent (hsilent (by simp))]

end Target

/-- With schemas the lines for a table begin with one enumeration for each field that selects among
choices, and have no other one. The row of such a field refers to its enumeration, and no other row
depends on what the table is called. Without schemas there are no enumerations. A text declares the
name of each enumeration once. -/
theorem enumerations_of_tables :
    (∀ field : Field, field.hasEnumeration = true ↔
      ∃ choices, field.SelectsFrom choices ∧ choices ≠ []) ∧
    (∀ (target : Target) (fieldIds : Bool) (table : Table), target.mode = .schemas →
      ∃ before after,
        (Assembly.empty.addTable target fieldIds table).lines =
          before ++ (target.recordLines table ++ after) ∧
        target.BeginsWithEnumerations table before (target.recordLines table) after) ∧
    (∀ (target : Target) (fieldIds : Bool) (table : Table), target.mode = .types →
      target.readEnumerations (Assembly.empty.addTable target fieldIds table).lines = [] ∧
      target.declaredNames (Assembly.empty.addTable target fieldIds table).lines =
        target.recordNames table ++ if fieldIds then [table.fieldLookupName] else []) ∧
    ∀ (base : Base) (tables : List Table) (options : GenerationOptions) (text : String),
      generate base tables options = .ok text →
      ∃ selected, selectIf tables options.requested = .ok selected ∧
        text = (assemble options.target options.fieldIds base selected).text ∧
        options.target.readEnumerations
            (assemble options.target options.fieldIds base selected).lines =
          selected.flatMap options.target.tableEnumerations ∧
        ∀ enumeration ∈ selected.flatMap options.target.tableEnumerations,
          (options.target.declaredNames
            (assemble options.target options.fieldIds base selected).lines).count
              enumeration.name = 1 ∧
          (options.target.IdsFit base selected →
            (options.target.declaredNames (textLines text)).count enumeration.name = 1) := by
  refine ⟨Field.hasEnumeration_iff, fun target fieldIds table hschemas => ?_,
    fun target fieldIds table htypes => ?_, fun base tables options text htext => ?_⟩
  · refine ⟨_, _, ?_, Target.beginsWithEnumerations hschemas fieldIds table⟩
    rw [← List.append_assoc]
    rfl
  · have hnone : target.tableEnumerations table = [] := by
      rw [Target.tableEnumerations, htypes]
    have hlines : (Assembly.empty.addTable target fieldIds table).lines =
        target.tableLines fieldIds table := rfl
    rw [hlines, (target.readsAs_tableLines fieldIds table).read_eq rfl,
      (target.declares_table fieldIds table).names_eq, Target.tableNames,
      target.enumerationNames_eq, hnone]
    exact ⟨rfl, rfl⟩
  · obtain ⟨selected, hselect, rfl, hnodup⟩ := generate_eq_ok htext
    refine ⟨selected, hselect, rfl, options.target.readEnumerations_assemble _ _ _,
      fun enumeration hmem => ?_⟩
    have hnames := (nodup_declaredNames hnodup base).sublist (List.sublist_append_right _ _)
    have hone := List.count_eq_one_of_mem hnames
      (Target.mem_declaredNames_assemble hmem options.fieldIds base)
    refine ⟨hone, fun hfit => ?_⟩
    rw [Target.declaredNames_text hfit]
    exact hone

/-- The states of plans are declared once, and the row of the field refers to them. -/
theorem plans_declare_states :
    generate plansBase [plansTable "Plans für 2025" [stateField]] modelOptions =
      .ok (assemble .model true plansBase [plansTable "Plans für 2025" [stateField]]).text ∧
    (Target.model.declaredNames
      (assemble .model true plansBase [plansTable "Plans für 2025" [stateField]]).lines).count
        (enumerationName "Plans für 2025" stateField) = 1 ∧
    ∃ row, Target.model.readRows
        (Target.model.recordLines (plansTable "Plans für 2025" [stateField])) = [row] ∧
      row.expression = enumerationName "Plans für 2025" stateField := by
  obtain ⟨-, hschemas, -, htexts⟩ := enumerations_of_tables
  obtain ⟨before, after, -, hparts⟩ :=
    hschemas .model true (plansTable "Plans für 2025" [stateField]) rfl
  obtain ⟨selected, hselect, -, -, hcount⟩ := htexts _ _ _ _ generate_plans
  cases hselect
  have hmem : (plansTable "Plans für 2025" [stateField]).enumeration stateField ∈
      [plansTable "Plans für 2025" [stateField]].flatMap Target.model.tableEnumerations := by
    decide
  refine ⟨generate_plans, (hcount _ hmem).1, ?_⟩
  obtain ⟨row, rest, hrow, hrest, hrows⟩ := List.forall₂_cons_right_iff.mp hparts.rows
  cases hrest
  rcases hrow.selection rfl with ⟨-, hexpression⟩ | ⟨htype, -⟩
  · exact ⟨row, hrows, hexpression⟩
  · cases htype

end RecordTypes
