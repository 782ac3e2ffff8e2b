import RecordTypes.Proofs.Generation.Outcome
import RecordTypes.Proofs.Generation.Remark

/-! When all lines of an assembly are intact, and when all are sealed. Whatever names and choices
hold is put on one line or quoted, so that this is told by the lines that have ids in them. -/

namespace RecordTypes

namespace Target

/-- Text that may stand in the remark on a field. Where that is a comment, only line ends matter. -/
def FitsRemark (target : Target) (s : List Char) : Prop :=
  match target with
  | .typedDict => IsUnbroken s
  | .interface | .zod | .model => target.language.Fits s

theorem baseRemarkLine_iff {target : Target} {P : String → Prop}
    (hP : ∀ line, target.language.IsCode line → P line)
    (hline : ∀ line, P line → IsUnbroken line.toList) (base : Base) :
    P (target.baseRemarkLine base) ↔ IsUnbroken base.id.toList := by
  rw [← isUnbroken_baseRemark_iff]
  exact ⟨fun h => (target.isUnbroken_comment_iff _).mp (hline _ h),
    fun h => hP _ (target.isCode_comment h)⟩

theorem fieldComment_iff {P : String → Prop} (hP : ∀ line, Language.python.IsCode line → P line)
    (hline : ∀ line, P line → IsUnbroken line.toList) (table : Table) (field : Field) :
    P (typedDict.fieldRemarkLine table field) ↔ typedDict.FitsRemark field.idText.toList := by
  have hcomment : IsUnbroken (typedDict.fieldRemarkLine table field).toList ↔
      IsUnbroken (field.remark table).toList :=
    (isUnbroken_indented_iff _ 2 _).trans (typedDict.isUnbroken_comment_iff _)
  rw [FitsRemark, ← field.isUnbroken_remark_iff table]
  exact ⟨fun h => hcomment.mp (hline _ h), fun h => hP _
    ((Language.isCode_indented_iff _ _ 2 _).mpr (typedDict.isCode_comment h))⟩

theorem isIntact_fieldRemarkLine_iff (target : Target) (table : Table) (field : Field) :
    target.language.IsIntact (target.fieldRemarkLine table field) ↔
      target.FitsRemark field.idText.toList := by
  have hdocstring := target.isIntact_docstring_iff 1 (field.getLast?_remark table)
  rw [field.fits_remark_iff] at hdocstring
  cases target with
  | typedDict =>
    exact fieldComment_iff (fun _ h => h.isSealed.toIsIntact) (fun _ h => h.unbroken) table field
  | interface | zod | model => exact hdocstring

theorem isSealed_fieldRemarkLine_iff (target : Target) (table : Table) (field : Field) :
    target.language.IsSealed (target.fieldRemarkLine table field) ↔
      target.FitsRemark field.idText.toList ∧
        (target = .model → (oneLineText field.label).toList.head? ≠ some quotationMark) := by
  have hdocstring := target.isSealed_docstring_iff 1 (field.getLast?_remark table)
  rw [field.fits_remark_iff, ne_eq, field.head?_remark_iff] at hdocstring
  cases target with
  | typedDict =>
    have hcomment := fieldComment_iff (fun _ h => h.isSealed) (fun _ h => h.unbroken) table field
    exact hcomment.trans (and_iff_left (by simp)).symm
  | interface | zod => exact hdocstring.trans (and_congr_right fun _ => by simp [language])
  | model => exact hdocstring.trans (and_congr_right fun _ => by simp [language])

theorem isIntact_tableRemarkLines_iff (target : Target) (table : Table) :
    (∀ line ∈ target.tableRemarkLines table, target.language.IsIntact line) ↔
      (target.language = .python → target.language.Fits table.id.toList) := by
  have hdocstring (level : Nat) := target.isIntact_docstring_iff level table.getLast?_remark
  simp only [table.fits_remark_iff] at hdocstring
  cases target with
  | interface | zod => simp [tableRemarkLines, language]
  | typedDict => exact List.forall_mem_singleton.trans ((hdocstring 0).trans (by simp [language]))
  | model => exact List.forall_mem_singleton.trans ((hdocstring 1).trans (by simp [language]))

theorem isSealed_tableRemarkLines_iff (target : Target) (table : Table) :
    (∀ line ∈ target.tableRemarkLines table, target.language.IsSealed line) ↔
      (target.language = .python → target.language.Fits table.id.toList) ∧
        (target.language = .python →
          (oneLineText table.name).toList.head? ≠ some quotationMark) := by
  have hdocstring (level : Nat) := target.isSealed_docstring_iff level table.getLast?_remark
  simp only [table.fits_remark_iff, ne_eq, table.head?_remark_iff] at hdocstring
  cases target with
  | interface | zod => simp [tableRemarkLines, language]
  | typedDict => exact List.forall_mem_singleton.trans ((hdocstring 0).trans (by simp [language]))
  | model => exact List.forall_mem_singleton.trans ((hdocstring 1).trans (by simp [language]))

/-- Ids that do no harm where they are written as they are: the id of the base in a comment at the
top, the ids of the fields in remarks, and those of the tables in the docstrings of Python. -/
structure IdsFit (target : Target) (base : Base) (tables : List Table) : Prop where
  ofBase : IsUnbroken base.id.toList
  ofTables : target.language = .python → ∀ table ∈ tables, target.language.Fits table.id.toList
  ofFields : ∀ table ∈ tables, ∀ field ∈ table.fields, target.FitsRemark field.idText.toList

/-- Names that begin docstrings of Python, but do not begin with a quotation mark. -/
structure NamesFit (target : Target) (tables : List Table) : Prop where
  ofTables : target.language = .python → ∀ table ∈ tables,
    (oneLineText table.name).toList.head? ≠ some quotationMark
  ofFields : target = .model → ∀ table ∈ tables, ∀ field ∈ table.fields,
    (oneLineText field.label).toList.head? ≠ some quotationMark

theorem isSealed_enumerationRemarkLines (target : Target) (field : Field) :
    ∀ line ∈ target.enumerationRemarkLines field, target.language.IsSealed line := by
  cases target with
  | interface | zod | typedDict => simp [enumerationRemarkLines]
  | model =>
    have hhead : field.optionsRemark.toList.head? ≠ some quotationMark := by
      simp [field.toList_optionsRemark, quotationMark]
    exact List.forall_mem_singleton.mpr ((model.isSealed_docstring_iff 0
      field.getLast?_optionsRemark).mpr ⟨field.fits_optionsRemark .python, fun _ => hhead⟩)

theorem forall_isIntact_iff (target : Target) (fieldIds : Bool) (base : Base)
    (tables : List Table) :
    (∀ line ∈ (assemble target fieldIds base tables).lines, target.language.IsIntact line) ↔
      target.IdsFit base tables := by
  rw [forall_assemble_iff (fun _ h => h.isSealed.toIsIntact),
    baseRemarkLine_iff (fun _ h => h.isSealed.toIsIntact) (fun _ h => h.unbroken)]
  simp only [forall_remarkLines_iff, isIntact_tableRemarkLines_iff, isIntact_fieldRemarkLine_iff]
  constructor
  · rintro ⟨hbase, htables⟩
    exact ⟨hbase, fun hpython table htable => (htables table htable).2.1 hpython,
      fun table htable => (htables table htable).2.2⟩
  · rintro ⟨hbase, hids, hfields⟩
    exact ⟨hbase, fun table htable =>
      ⟨fun field _ _ line hline =>
          (target.isSealed_enumerationRemarkLines field line hline).toIsIntact,
        fun hpython => hids hpython table htable, hfields table htable⟩⟩

theorem forall_isSealed_iff (target : Target) (fieldIds : Bool) (base : Base)
    (tables : List Table) :
    (∀ line ∈ (assemble target fieldIds base tables).lines, target.language.IsSealed line) ↔
      target.IdsFit base tables ∧ target.NamesFit tables := by
  rw [forall_assemble_iff (fun _ h => h.isSealed),
    baseRemarkLine_iff (fun _ h => h.isSealed) (fun _ h => h.unbroken)]
  simp only [forall_remarkLines_iff, isSealed_tableRemarkLines_iff, isSealed_fieldRemarkLine_iff]
  constructor
  · rintro ⟨hbase, htables⟩
    exact ⟨⟨hbase, fun hpython table htable => (htables table htable).2.1.1 hpython,
        fun table htable field hfield => ((htables table htable).2.2 field hfield).1⟩,
      fun hpython table htable => (htables table htable).2.1.2 hpython,
      fun hmodel table htable field hfield => ((htables table htable).2.2 field hfield).2 hmodel⟩
  · rintro ⟨⟨hbase, hids, hfields⟩, hnames, hlabels⟩
    exact ⟨hbase, fun table htable =>
      ⟨fun field _ _ => target.isSealed_enumerationRemarkLines field,
        ⟨fun hpython => hids hpython table htable, fun hpython => hnames hpython table htable⟩,
        fun field hfield => ⟨hfields table htable field hfield,
          fun hmodel => hlabels hmodel table htable field hfield⟩⟩⟩

end Target

/-- The lines of an assembly hold no line ends, and those that begin as docstrings are closed at
their end only, exactly if the ids fit. The mark that ends a docstring is not even found across the
one that begins it exactly if moreover no name puts a quotation mark there. -/
theorem lines_of_assemble_intact_iff (target : Target) (fieldIds : Bool) (base : Base)
    (tables : List Table) :
    ((∀ line ∈ (assemble target fieldIds base tables).lines, target.language.IsIntact line) ↔
      target.IdsFit base tables) ∧
    ((∀ line ∈ (assemble target fieldIds base tables).lines, target.language.IsSealed line) ↔
      target.IdsFit base tables ∧ target.NamesFit tables) :=
  ⟨target.forall_isIntact_iff fieldIds base tables, target.forall_isSealed_iff fieldIds base tables⟩

def notesBase : Base := ⟨"appN", "Notes", .create⟩

def notes : Table where
  id := "tblN"
  name := "Notes"
  primaryFieldId := "fld*/"
  description := none
  fields := [.plain ⟨some "fld*/", some "Note", none⟩ (.basic .singleLineText none)]
  views := []

/-- The id of a field ends the comment that it stands in. -/
theorem note_ends_its_comment :
    generate notesBase [notes] .standard =
      .ok (assemble .interface false notesBase [notes]).text ∧
    ¬ ∀ line ∈ (assemble .interface false notesBase [notes]).lines,
      Language.typescript.IsIntact line := by
  refine ⟨generate_of_nodup notesBase [notes] .standard rfl (by decide +kernel), fun h => ?_⟩
  have hfit := (Target.forall_isIntact_iff .interface false notesBase [notes]).mp h
  have hid := hfit.ofFields notes List.mem_cons_self _ List.mem_cons_self
  exact hid.unclosed ⟨"fld".toList, [], by decide⟩

end RecordTypes
