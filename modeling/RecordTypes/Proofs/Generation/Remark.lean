import RecordTypes.Proofs.Generation.Assembly
import RecordTypes.Proofs.Target.Line

/-! The lines of an assembly that remarks are written on. All its other lines are code, so what is
true of code is true of all lines if it is true of these. -/

namespace RecordTypes

namespace Target

/-- The comment on the base at the top. -/
def baseRemarkLine (target : Target) (base : Base) : String :=
  target.dialect.comment ("Airtable base: " ++ oneLineText base.name ++ " (" ++ base.id ++ ")")

theorem isUnbroken_baseRemark_iff (base : Base) :
    IsUnbroken ("Airtable base: " ++ oneLineText base.name ++ " (" ++ base.id ++ ")").toList ↔
      IsUnbroken base.id.toList := by
  have hname := (fits_oneLineText .python base.name).unbroken
  have hmarks : IsUnbroken "Airtable base: ".toList ∧ IsUnbroken " (".toList ∧
      IsUnbroken ")".toList := by decide
  simp only [String.toList_append, isUnbroken_append_iff, hname, hmarks, true_and, and_true]

/-- The docstring of a record, which only Python has. -/
def tableRemarkLines (target : Target) (table : Table) : List String :=
  match target with
  | .interface | .zod => []
  | .typedDict => [pythonDialect.docstring 0 table.remark]
  | .model => [pythonDialect.docstring 1 table.remark]

/-- The line of a row that says what the field is called. -/
def fieldRemarkLine (target : Target) (table : Table) (field : Field) : String :=
  match target with
  | .typedDict => pythonDialect.indented 2 (pythonDialect.comment (field.remark table))
  | .interface | .zod | .model => target.dialect.docstring 1 (field.remark table)

/-- Everything that is said about a table and its fields. -/
def remarkLines (target : Target) (table : Table) : List String :=
  (table.fields.filter Field.hasEnumeration).flatMap target.enumerationRemarkLines ++
    target.tableRemarkLines table ++ table.fields.map (target.fieldRemarkLine table)

theorem forall_remarkLines_iff {target : Target} {P : String → Prop} (table : Table) :
    (∀ line ∈ target.remarkLines table, P line) ↔
      (∀ field ∈ table.fields, field.hasEnumeration = true →
        ∀ line ∈ target.enumerationRemarkLines field, P line) ∧
      (∀ line ∈ target.tableRemarkLines table, P line) ∧
        ∀ field ∈ table.fields, P (target.fieldRemarkLine table field) := by
  simp only [remarkLines, List.forall_mem_append, List.forall_mem_flatMap, List.forall_mem_map,
    List.mem_filter, and_imp, and_assoc]

section
variable {target : Target} {P : String → Prop} (hP : ∀ line, target.language.IsCode line → P line)
include hP

theorem forall_header_iff (base : Base) :
    (∀ line ∈ target.header base, P line) ↔ P (target.baseRemarkLine base) := by
  have hbanner : ∀ line ∈ target.dialect.banner, target.language.IsCode line := by
    have hcomment {chars : List Char} (h : IsUnbroken chars) :=
      target.isCode_comment (holds_of_chars (P := IsUnbroken) h)
    simp only [Dialect.banner, List.forall_mem_cons]
    exact ⟨hcomment (by decide), hcomment (by decide), hcomment (by decide), target.isCode_empty,
      List.forall_mem_nil _⟩
  have himports : ∀ line ∈ target.importLines, target.language.IsCode line := by
    cases target
    all_goals
      simp only [importLines, List.forall_mem_cons]
      and_intros
    all_goals first
      | exact .of_chars (by decide)
      | exact List.forall_mem_nil _
  simp only [header, List.forall_mem_append, List.forall_mem_cons]
  constructor
  · rintro ⟨⟨-, hremark, -⟩, -⟩
    exact hremark
  · intro hremark
    exact ⟨⟨fun line hline => hP line (hbanner line hline), hremark,
      hP _ target.isCode_empty, by simp⟩, fun line hline => hP line (himports line hline)⟩

theorem forall_rowLines_iff (table : Table) (field : Field) :
    (∀ line ∈ target.rowLines (target.row table field), P line) ↔
      P (target.fieldRemarkLine table field) := by
  cases target with
  | interface =>
    have hmember := hP _ (isCode_memberLine field.label
      (interface.isUnbroken_fieldExpression table.name field) (!field.isReadOnly) field.isReadOnly)
    exact List.forall_mem_cons.trans (and_iff_left (List.forall_mem_singleton.mpr hmember))
  | zod =>
    have hmember := hP _ (isCode_zodMember table field)
    exact List.forall_mem_cons.trans (and_iff_left (List.forall_mem_singleton.mpr hmember))
  | typedDict =>
    have hmember := hP _ (isCode_typedDictMember table field)
    exact List.forall_mem_cons.trans (and_iff_left (List.forall_mem_singleton.mpr hmember))
  | model =>
    have hmember := hP _ (isCode_modelMember table field)
    exact List.forall_mem_cons.trans ((and_iff_right hmember).trans List.forall_mem_singleton)

theorem forall_recordFrame_iff (table : Table) :
    ((∀ line ∈ target.recordOpening table, P line) ∧
      ∀ line ∈ target.recordClosing table, P line) ↔
    ∀ line ∈ target.tableRemarkLines table, P line := by
  cases target with
  | interface =>
    obtain ⟨hopening, hclosing⟩ := isCode_interfaceFrame table
    exact iff_of_true ⟨fun line hline => hP line (hopening line hline),
      fun line hline => hP line (hclosing line hline)⟩ (by simp [tableRemarkLines])
  | zod =>
    obtain ⟨hopening, hclosing⟩ := isCode_zodFrame table
    exact iff_of_true ⟨fun line hline => hP line (hopening line hline),
      fun line hline => hP line (hclosing line hline)⟩ (by simp [tableRemarkLines])
  | typedDict =>
    have hopening := isCode_typedDictOpening table
    have hends : Language.python.IsCode (pythonDialect.indented 1 "\x7d,") ∧
        Language.python.IsCode ")" ∧ Language.python.IsCode "" := by decide
    simp only [recordClosing, tableRemarkLines, List.forall_mem_cons]
    constructor
    · rintro ⟨-, -, -, hremark, -⟩
      exact ⟨hremark, by simp⟩
    · rintro ⟨hremark, -⟩
      exact ⟨fun line hline => hP line (hopening line hline), hP _ hends.1, hP _ hends.2.1,
        hremark, hP _ hends.2.2, hP _ hends.2.2, by simp⟩
  | model =>
    have hhead := isCode_modelHead table
    have hends : Language.python.IsCode
        (pythonDialect.indented 1 "model_config = ConfigDict(populate_by_name=True)") ∧
          Language.python.IsCode "" := by decide
    simp only [recordOpening, recordClosing, tableRemarkLines, List.forall_mem_cons]
    constructor
    · rintro ⟨⟨-, hremark, -⟩, -⟩
      exact ⟨hremark, by simp⟩
    · rintro ⟨hremark, -⟩
      exact ⟨⟨hP _ hhead, hremark, hP _ hends.2, hP _ hends.1, hP _ hends.2, by simp⟩,
        hP _ hends.2, hP _ hends.2, by simp⟩

theorem forall_tableLines_iff (fieldIds : Bool) (table : Table) :
    (∀ line ∈ target.tableLines fieldIds table, P line) ↔
      ∀ line ∈ target.remarkLines table, P line := by
  have henumerations : (∀ line ∈ target.enumerationBlock table, P line) ↔
      ∀ field ∈ table.fields, field.hasEnumeration = true →
        ∀ line ∈ target.enumerationRemarkLines field, P line := by
    simp only [enumerationBlock, List.forall_mem_flatMap, List.mem_filter, and_imp,
      forall_enumerationLines_iff hP]
  have hlookups : ∀ line ∈ if fieldIds then target.fieldLookupLines table else [], P line := by
    cases fieldIds with
    | true => exact fun line hline => hP line (target.isCode_fieldLookupLines table line hline)
    | false => simp
  have hrows : (∀ line ∈ target.rowBlock table table.fields, P line) ↔
      ∀ field ∈ table.fields, P (target.fieldRemarkLine table field) := by
    rw [rowBlock, List.forall_mem_flatMap]
    exact forall₂_congr fun field _ => forall_rowLines_iff hP table field
  rw [tableLines, recordLines_eq, forall_remarkLines_iff, ← henumerations,
    ← forall_recordFrame_iff hP table, ← hrows]
  simp only [List.forall_mem_append]
  constructor
  · rintro ⟨⟨henumerations, hopening, hrows, hclosing⟩, -⟩
    exact ⟨henumerations, ⟨hopening, hclosing⟩, hrows⟩
  · rintro ⟨henumerations, ⟨hopening, hclosing⟩, hrows⟩
    exact ⟨⟨henumerations, hopening, hrows, hclosing⟩, hlookups⟩

/-- What is true of code is true of all lines if it is true of the remarks. -/
theorem forall_assemble_iff (fieldIds : Bool) (base : Base) (tables : List Table) :
    (∀ line ∈ (assemble target fieldIds base tables).lines, P line) ↔
      P (target.baseRemarkLine base) ∧
        ∀ table ∈ tables, ∀ line ∈ target.remarkLines table, P line := by
  have hshared : ∀ line ∈ target.sharedBlock (allFields tables), P line := by
    intro line hline
    obtain ⟨declaration, hwritten, hline⟩ := List.mem_flatMap.mp hline
    have hdeclared := (List.mem_filter.mp hwritten).1
    exact hP line (target.isCode_sharedLines declaration hdeclared line hline)
  have htables : (∀ line ∈ target.tableBlocks fieldIds tables, P line) ↔
      ∀ table ∈ tables, ∀ line ∈ target.remarkLines table, P line := by
    rw [tableBlocks, List.forall_mem_flatMap]
    exact forall₂_congr fun table _ => forall_tableLines_iff hP fieldIds table
  have hlookups : ∀ line ∈ target.lookupBlock fieldIds tables, P line := by
    cases fieldIds with
    | true => exact fun line hline => hP line (target.isCode_tableLookupLines tables line hline)
    | false => simp [lookupBlock]
  rw [assemble_eq]
  simp only [List.forall_mem_append, forall_header_iff hP, htables]
  constructor
  · rintro ⟨⟨⟨hbase, -⟩, htables⟩, -⟩
    exact ⟨hbase, htables⟩
  · rintro ⟨hbase, htables⟩
    exact ⟨⟨⟨hbase, hshared⟩, htables⟩, hlookups⟩

end

end Target

end RecordTypes
