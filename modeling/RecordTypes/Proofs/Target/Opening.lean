import RecordTypes.Proofs.Target.Block

/-! Lines with which nothing is opened that goes over several lines. Lookups and enumerations are
opened by a brace or bracket at the end of a line, behind the name that the line declares. -/

namespace RecordTypes

theorem getLast?_toList_append (s : String) {t : String} {c : Char}
    (h : t.toList.getLast? = some c) : (s ++ t).toList.getLast? = some c := by
  rw [String.toList_append, List.getLast?_append, h]
  rfl

namespace Target

/-- The line declares nothing, or ends in a mark other than those that open something. -/
def OpensNothing (target : Target) (line : String) : Prop :=
  target.declaredName? line = none ∨
    ∃ c, line.toList.getLast? = some c ∧ c ≠ '\x7b' ∧ c ≠ '['

theorem IsSilent.opensNothing {target : Target} {line : String} (h : target.IsSilent line) :
    target.OpensNothing line := Or.inl h.declared

theorem opensNothing_of_ending (target : Target) (front : String) {ending : String} {c : Char}
    (h : ending.toList.getLast? = some c) (hc : c ≠ '\x7b' ∧ c ≠ '[') :
    target.OpensNothing (front ++ ending) :=
  Or.inr ⟨c, getLast?_toList_append front h, hc⟩

theorem opensNothing_empty (target : Target) : target.OpensNothing "" :=
  target.isSilent_empty.opensNothing

theorem opensNothing_indented (target : Target) (s : String) :
    target.OpensNothing (pythonDialect.indented 1 s) := by
  have hline : (pythonDialect.indented 1 s).toList = ' ' :: ' ' :: ' ' :: ' ' :: s.toList := by
    simp [Dialect.indented, pythonDialect, List.replicate]
  exact Or.inl (target.declaredName?_of_blanks hline)

/-! ## Lines of a record -/

theorem opensNothing_rowLines (target : Target) (row : Row) :
    ∀ line ∈ target.rowLines row, target.OpensNothing line := by
  by_cases htarget : target = .model
  · subst htarget
    have hremark := (model.isSilent_docstring row.remark).opensNothing
    refine List.forall_mem_cons.mpr ⟨?_, List.forall_mem_singleton.mpr hremark⟩
    split <;> exact model.opensNothing_indented _
  · exact fun line hline => (isSilent_rowLines htarget row line hline).opensNothing

theorem opensNothing_rowBlock (target : Target) (table : Table) (fields : List Field) :
    ∀ line ∈ target.rowBlock table fields, target.OpensNothing line :=
  List.forall_mem_flatMap.mpr fun field _ => target.opensNothing_rowLines (target.row table field)

theorem opensNothing_recordOpening {target : Target} (h : target.language = .python)
    (table : Table) : ∀ line ∈ target.recordOpening table, target.OpensNothing line := by
  cases target with
  | interface | zod => cases h
  | typedDict =>
    have hopening : typedDict.OpensNothing (table.typeName ++ " = TypedDict(") :=
      opensNothing_of_ending _ _ (c := '(') (by decide) (by decide)
    simp only [recordOpening, List.forall_mem_cons]
    exact ⟨hopening, typedDict.opensNothing_indented _, typedDict.opensNothing_indented _,
      List.forall_mem_nil _⟩
  | model =>
    have hopening : model.OpensNothing ("class " ++ table.typeName ++ "(BaseModel):") :=
      opensNothing_of_ending _ _ (c := ':') (by decide) (by decide)
    have hremark := (model.isSilent_docstring table.remark).opensNothing
    have hempty := model.opensNothing_empty
    simp only [recordOpening, List.forall_mem_cons]
    exact ⟨hopening, hremark, hempty, model.opensNothing_indented _, hempty, List.forall_mem_nil _⟩

theorem opensNothing_recordClosing (target : Target) (table : Table) :
    ∀ line ∈ target.recordClosing table, target.OpensNothing line := by
  have hempty := target.opensNothing_empty
  have hmark {line : String} {c : Char} (h : line.toList.head? = some c) (hc : isMark c = true) :
      target.OpensNothing line := (IsSilent.of_mark target h hc).opensNothing
  cases target with
  | interface =>
    have hbrace : interface.OpensNothing "\x7d" := hmark rfl (by decide)
    exact List.forall_mem_cons.mpr ⟨hbrace, List.forall_mem_singleton.mpr hempty⟩
  | zod =>
    have hbrace : zod.OpensNothing "\x7d)" := hmark rfl (by decide)
    have htype : zod.OpensNothing ("export type " ++ table.typeName ++ " = z.infer<typeof " ++
        table.schemaName ++ ">") := opensNothing_of_ending _ _ (c := '>') (by decide) (by decide)
    exact List.forall_mem_cons.mpr ⟨hbrace, List.forall_mem_cons.mpr
      ⟨htype, List.forall_mem_singleton.mpr hempty⟩⟩
  | typedDict =>
    have hparen : typedDict.OpensNothing ")" := hmark rfl (by decide)
    have hremark := (typedDict.isSilent_tableRemark table.remark).opensNothing
    simp only [recordClosing, List.forall_mem_cons]
    exact ⟨typedDict.opensNothing_indented _, hparen, hremark, hempty, hempty,
      List.forall_mem_nil _⟩
  | model => exact List.forall_mem_cons.mpr ⟨hempty, List.forall_mem_singleton.mpr hempty⟩

/-! ## Lines of classes that tables share -/

theorem opensNothing_classLines (target : Target) (name parent : String)
    (members : List (String × String)) :
    ∀ line ∈ classLines name parent members, target.OpensNothing line := by
  refine List.forall_mem_cons.mpr ⟨?_, List.forall_mem_map.mpr fun member _ => ?_⟩
  · exact opensNothing_of_ending _ _ (c := ':') (by decide) (by decide)
  · exact target.opensNothing_indented _

theorem opensNothing_pythonShared (target : Target)
    (parent optionalThumbnails optionalUrl : String) :
    ∀ declaration ∈ [classAttachment parent optionalThumbnails, classCollaborator parent,
        classBarcode parent, classButton parent optionalUrl],
      ∀ line ∈ declaration.lines, target.OpensNothing line := by
  have hgap : ∀ line ∈ ["", ""], target.OpensNothing line :=
    List.forall_mem_cons.mpr
      ⟨target.opensNothing_empty, List.forall_mem_singleton.mpr target.opensNothing_empty⟩
  exact forall_pythonShared (P := fun lines _ => ∀ line ∈ lines, target.OpensNothing line) hgap
    (fun h h' => List.forall_mem_append.mpr ⟨h, h'⟩)
    fun _ _ => target.opensNothing_classLines _ _ _

theorem opensNothing_sharedDeclarations {target : Target} (h : target.language = .python) :
    ∀ declaration ∈ target.sharedDeclarations,
      ∀ line ∈ declaration.lines, target.OpensNothing line := by
  cases target with
  | interface | zod => cases h
  | typedDict => exact typedDict.opensNothing_pythonShared _ _ _
  | model =>
    have hemail : ∀ line ∈ modelEmail.lines, model.OpensNothing line :=
      List.forall_mem_singleton.mpr
        (opensNothing_of_ending _ _ (c := ']') (by decide) (by decide))
    exact List.forall_mem_append.mpr
      ⟨model.opensNothing_pythonShared _ _ _, List.forall_mem_singleton.mpr hemail⟩

/-- A property of lines holds of all that is shared if lines that open nothing have it, and the lines
of the interfaces and schemas. -/
theorem forall_sharedDeclarations {target : Target} {P : String → Prop}
    (hopens : ∀ line, target.OpensNothing line → P line)
    (htypescript : ∀ declaration ∈ [interfaceAttachment, interfaceCollaborator, zodAttachment,
      zodCollaborator], ∀ line ∈ declaration.lines, P line) :
    ∀ declaration ∈ target.sharedDeclarations, ∀ line ∈ declaration.lines, P line := by
  cases target with
  | interface | zod => exact forall_of_typescriptShared rfl htypescript
  | typedDict | model =>
    exact fun declaration h line hline =>
      hopens line (opensNothing_sharedDeclarations rfl declaration h line hline)

end Target

end RecordTypes
